import Recompile.Config
import Recompile.Toml.Reader

/-!
# Records in TOML

A record is a table with its fields in any order, other fields being ignored, or an array of its
fields in their order, of which any number may be missing at the end. A date stands for a record
without fields. A word is a text, or a table whose only field is the word, with something empty.
-/

namespace Recompile

namespace Toml

namespace Value

/-- The items of an array or of a list of tables. -/
def items? : Value → Option (List Value)
  | .array items => some items
  | .tables elements => some (elements.map (.table .header))
  | _ => none

/-- The values of the named fields of a record, where present. -/
def record? (names : List String) : Value → Option (List (Option Value))
  | .table _ fields => some (names.map fun name => fields.lookup name)
  | .date => some (names.map fun _ => none)
  | v => v.items?.map fun items => names.zipIdx.map fun (_, i) => items[i]?

/-- A table or an array with nothing in it. -/
def isEmpty : Value → Bool
  | .array items => items.isEmpty
  | .table _ fields => fields.isEmpty
  | .tables elements => elements.isEmpty
  | _ => false

/-- The word a value stands for. -/
def word? : Value → Option String
  | .text t => some t
  | .table _ [(name, v)] => if v.isEmpty then some name else none
  | _ => none

/-- A text. -/
def text? : Value → Option String
  | .text t => some t
  | _ => none

/-- A truth value. -/
def bool? : Value → Option Bool
  | .bool b => some b
  | _ => none

end Value

end Toml

namespace Config

/-- Reads settings. A field that is left out has its default. -/
def ofToml? (v : Toml.Value) : Option Config := do
  let [mode, traceStatements] ← v.record? ["mode", "trace_statements"] | none
  return {
    mode := ← mode.elim (some default) fun m => m.word?.bind Mode.ofWord?
    traceStatements := ← traceStatements.elim (some false) Toml.Value.bool? }

/-- The settings a document holds. -/
def parse (document : String) : Option Config := do ofToml? (← Toml.parse document)

end Config

end Recompile
