/-!
# Session settings

The settings are fixed for the lifetime of a session.
-/

namespace Recompile

/-- How a session is used. -/
inductive Mode where
  /-- Whole-program builds: no dependency graph and no markers are kept. -/
  | batch
  /-- An editor's assistant: edges, closure and markers are live. -/
  | suggest
deriving DecidableEq, Repr

instance : Inhabited Mode := ⟨.batch⟩

namespace Mode

/-- The word for a mode in settings. -/
def word : Mode → String
  | batch => "batch"
  | suggest => "suggest"

/-- The mode a word stands for. -/
def ofWord? (word : String) : Option Mode :=
  if word = "batch" then some batch else if word = "suggest" then some suggest else none

/-- The name of a mode in diagnostics. -/
def debugText : Mode → String
  | batch => "Batch"
  | suggest => "Suggest"

end Mode

/-- The settings of a session. -/
structure Config where
  mode : Mode := .batch
  /-- Compiled statements are handed to the hooks. -/
  traceStatements : Bool := false
deriving DecidableEq, Repr, Inhabited

namespace Config

/-- The settings of an editor's assistant, otherwise plain. -/
def suggest : Config := { mode := .suggest }

end Config

end Recompile
