import Recompile.CompiledModule
import Recompile.Fault

/-!
# Hooks

What the driver around a session provides: loaders for modules and include files, a listener
for compiled statements, and the wish to stop. A session without hooks loads nothing, tells
nobody and never stops.
-/

namespace Recompile

/-- The text of an include file. -/
structure IncludeText where
  file : FileId
  source : String
deriving DecidableEq, Repr

/-- What the driver around a session provides. -/
structure Hooks where
  /-- Loads a module for the file that imports it. -/
  loadModule : (importer file : FileId) → Except Fault (Option CompiledModule) :=
    fun _ _ => .ok none
  /-- Loads an include file for the file that includes it. -/
  loadInclude : (includer file : FileId) → Except Fault (Option IncludeText) :=
    fun _ _ => .ok none
  /-- The driver wants the compilation to stop. -/
  shouldStop : Bool := false
  /-- The statements the listener has heard, if there is a listener. -/
  statements : Option (Array (FileId × String)) := none

namespace Hooks

/-- Nothing is provided. -/
def none : Hooks := {}

/-- Tells the listener, if there is one, about a compiled statement. -/
def hear (h : Hooks) (module : FileId) (statement : String) : Hooks :=
  { h with statements := h.statements.map fun heard => heard.push (module, statement) }

end Hooks

end Recompile
