import Recompile.CompiledModule
import Recompile.Config
import Recompile.Dependency.Log
import Recompile.Json.Basic

/-!
# Records in JSON

The JSON forms of file numbers, modules, settings and reported dependencies. A record is an
object with its fields in any order, other fields being ignored, or an array of its fields
in their order. A word is a text, or an object whose only field is the word, with null.
-/

namespace Recompile

namespace Json

/-- The values of the named fields of a record, where present. A field may not be repeated. -/
def record? (names : List String) : Json → Option (List (Option Json))
  | .array items =>
    if items.length ≤ names.length then
      some (items.map some ++ List.replicate (names.length - items.length) none)
    else none
  | .object fields =>
    if fields.any fun f => f.1.isNone then none
    else names.mapM fun name =>
      match fields.filter fun f => f.1 = some name with
      | [] => some none
      | [(_, value)] => some (some value)
      | _ => none
  | _ => none

/-- The word a value stands for. -/
def word? : Json → Option String
  | .text t => t
  | .object [(name, .null)] => name
  | _ => none

/-- A text. -/
def text? : Json → Option String
  | .text t => t
  | _ => none

/-- A truth value. -/
def bool? : Json → Option Bool
  | .bool b => some b
  | _ => none

end Json

namespace FileId

/-- The file a number stands for. It must be whole and of 32 bits. -/
def ofJson? : Json → Option FileId
  | .int n =>
    if Int32.minValue.toInt ≤ n && n ≤ Int32.maxValue.toInt then some ⟨Int32.ofInt n⟩ else none
  | _ => none

/-- The number of a file. -/
def toJson (id : FileId) : Json := .int id.val.toInt

end FileId

namespace CompiledModule

/-- Reads a module. All fields are required. -/
def ofJson? (j : Json) : Option CompiledModule := do
  let [id, origin, name, dirty] ← j.record? ["id", "origin", "name", "dirty"] | none
  return {
    id := ← FileId.ofJson? (← id)
    origin := ← FileId.ofJson? (← origin)
    name := ← (← name).text?
    dirty := ← (← dirty).bool? }

/-- Writes a module. -/
def toJson (m : CompiledModule) : Json :=
  .ofFields [("id", m.id.toJson), ("origin", m.origin.toJson), ("name", .ofString m.name),
    ("dirty", .bool m.dirty)]

end CompiledModule

namespace Mode

/-- Reads a mode. -/
def ofJson? (j : Json) : Option Mode := j.word?.bind ofWord?

/-- Writes a mode. -/
def toJson (m : Mode) : Json := .ofString m.word

end Mode

namespace Config

/-- Reads settings. A field that is left out has its default. -/
def ofJson? (j : Json) : Option Config := do
  let [mode, traceStatements] ← j.record? ["mode", "trace_statements"] | none
  return {
    mode := ← mode.elim (some default) Mode.ofJson?
    traceStatements := ← traceStatements.elim (some false) Json.bool? }

/-- Writes settings. -/
def toJson (c : Config) : Json :=
  .ofFields [("mode", c.mode.toJson), ("trace_statements", .bool c.traceStatements)]

end Config

namespace EdgeKind

/-- The word for a kind of dependency. -/
def word : EdgeKind → String
  | direct => "direct"
  | inclusion => "include"

/-- The kind of dependency a word stands for. -/
def ofWord? (word : String) : Option EdgeKind :=
  if word = "direct" then some direct else if word = "include" then some inclusion else none

/-- Reads a kind of dependency. -/
def ofJson? (j : Json) : Option EdgeKind := j.word?.bind ofWord?

/-- Writes a kind of dependency. -/
def toJson (k : EdgeKind) : Json := .ofString k.word

end EdgeKind

namespace EdgeRecord

/-- Reads a reported dependency. All fields are required. -/
def ofJson? (j : Json) : Option EdgeRecord := do
  let [dependent, dependency, kind] ← j.record? ["dependent", "dependency", "kind"] | none
  return {
    dependent := ← FileId.ofJson? (← dependent)
    dependency := ← FileId.ofJson? (← dependency)
    kind := ← EdgeKind.ofJson? (← kind) }

/-- Writes a reported dependency. -/
def toJson (r : EdgeRecord) : Json :=
  .ofFields [("dependent", r.dependent.toJson), ("dependency", r.dependency.toJson),
    ("kind", r.kind.toJson)]

end EdgeRecord

end Recompile
