/-!
# TOML values and tables

A document is one table. Statements extend it: headers open tables, headers in double brackets
add a table to a list of tables, and assignments set a field of the table opened last, possibly
through a path of further tables. What a table was made by decides who may still extend it.
-/

namespace Recompile

namespace Toml

/-- What a table was made by. -/
inductive Origin where
  /-- A header of its own, or the document. -/
  | header
  /-- A header of a table inside it. -/
  | implied
  /-- The path of an assignment. -/
  | dotted
  /-- A pair of braces, which closes it. -/
  | braces
deriving DecidableEq, Repr

/-- A TOML value. Of dates and of numbers with a fraction it is only known that they are such. -/
inductive Value where
  | text (t : String)
  | integer (n : Int)
  | float
  | bool (b : Bool)
  | date
  | array (items : List Value)
  | table (origin : Origin) (fields : List (String × Value))
  /-- The tables of headers in double brackets. -/
  | tables (elements : List (List (String × Value)))
deriving Inhabited

/-- The fields of a table in the order in which they were first set. -/
abbrev Fields := List (String × Value)

/-- The fields with one of them set anew. -/
def Fields.replace (t : Fields) (key : String) (v : Value) : Fields :=
  t.map fun (k, old) => if k = key then (k, v) else (k, old)

/-- Changes the table a path leads to, making the tables on the way that do not exist. An
assignment may not go through a table with a header of its own; nothing may go through a value.
Through a list of tables the path goes on in the last of them. -/
def descend (assigning : Bool) (change : Origin → Fields → Option Fields) :
    List String → Origin → Fields → Option Fields
  | [], origin, t => change origin t
  | key :: path, _, t =>
    let made := if assigning then Origin.dotted else .implied
    match t.lookup key with
    | none => do
      let inner ← descend assigning change path made []
      return t ++ [(key, .table made inner)]
    | some (.table .braces _) => none
    | some (.table origin inner) =>
      if assigning && origin = .header then none
      else do
        let inner ← descend assigning change path origin inner
        return Fields.replace t key (.table origin inner)
    | some (.tables elements) => do
      let inner ← descend assigning change path .header (← elements.getLast?)
      return Fields.replace t key (.tables (elements.dropLast ++ [inner]))
    | some _ => none

/-- Splits a path into the tables it goes through and the field it names. -/
def lastKey? (path : List String) : Option (List String × String) :=
  path.getLast?.map fun key => (path.dropLast, key)

/-- Sets a field, which must be new, through a path of further tables, which only assignments may
have made. -/
def assign (path : List String) (v : Value) (origin : Origin) (t : Fields) : Option Fields := do
  let (tables, key) ← lastKey? path
  descend true
    (fun made t =>
      if tables ≠ [] && made ≠ .dotted then none
      else if (t.lookup key).isSome then none
      else some (t ++ [(key, v)]))
    tables origin t

/-- Opens the table of a header. It must be new, or known only from headers of tables inside it. -/
def openTable (path : List String) (t : Fields) : Option Fields := do
  let (tables, key) ← lastKey? path
  descend false
    (fun _ t =>
      match t.lookup key with
      | none => some (t ++ [(key, .table .header [])])
      | some (.table .implied inner) => some (Fields.replace t key (.table .header inner))
      | some _ => none)
    tables .header t

/-- Adds a table to the list of tables of a header in double brackets. -/
def addTable (path : List String) (t : Fields) : Option Fields := do
  let (tables, key) ← lastKey? path
  descend false
    (fun _ t =>
      match t.lookup key with
      | none => some (t ++ [(key, .tables [[]])])
      | some (.tables elements) => some (Fields.replace t key (.tables (elements ++ [[]])))
      | some _ => none)
    tables .header t

/-- A line of a document. -/
inductive Statement where
  /-- A blank line or a comment. -/
  | blank
  | header (path : List String)
  | listHeader (path : List String)
  | assignment (path : List String) (v : Value)

/-- The document so far and the path of the table opened last. -/
structure Progress where
  fields : Fields := []
  opened : List String := []

/-- Extends a document by a line. -/
def Progress.extend (p : Progress) : Statement → Option Progress
  | .blank => some p
  | .header path => (openTable path p.fields).map fun fields => ⟨fields, path⟩
  | .listHeader path => (addTable path p.fields).map fun fields => ⟨fields, path⟩
  | .assignment path v =>
    (descend false (assign path v) p.opened .header p.fields).map fun fields =>
      ⟨fields, p.opened⟩

/-- The document the lines make. -/
def document? (lines : List Statement) : Option Value := do
  let p ← lines.foldlM Progress.extend {}
  return .table .header p.fields

/-- The table in braces that assignments make. -/
def bracesTable? (assignments : List (List String × Value)) : Option Value := do
  let fields ← assignments.foldlM (fun t (path, v) => assign path v .header t) []
  return .table .braces fields

end Toml

end Recompile
