/-!
# JSON values

Whole numbers are kept by value, other numbers by their spelling. A text is kept only if its
escapes spell characters: half of a surrogate pair spells none.
-/

namespace Recompile

/-- A JSON value. -/
inductive Json where
  | null
  | bool (b : Bool)
  /-- A number written without fraction and exponent, other than `-0`. -/
  | int (n : Int)
  /-- Any other number, by its spelling. -/
  | decimal (spelling : String)
  | text (t : Option String)
  | array (items : List Json)
  | object (fields : List (Option String × Json))
deriving Inhabited

namespace Json

/-- A text of characters. -/
def ofString (t : String) : Json := .text (some t)

/-- An object with the given fields. -/
def ofFields (fields : List (String × Json)) : Json :=
  .object (fields.map fun (name, value) => (some name, value))

/-- The first field of an object with the given name. -/
def field? (j : Json) (name : String) : Option Json :=
  match j with
  | .object fields => fields.lookup (some name)
  | _ => none

end Json

end Recompile
