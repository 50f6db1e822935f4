import Recompile.FileId

/-!
# Compiled modules

A module as the dependency tables see it: the slot it claims, the file it was elaborated
from, its name, and whether it needs recompiling.
-/

namespace Recompile

/-- A module that has been compiled. -/
structure CompiledModule where
  /-- The slot the module claims. -/
  id : FileId
  /-- The file it was elaborated from, the same as `id` in a sound build. -/
  origin : FileId
  name : String
  /-- The marker of a module that needs recompiling. -/
  dirty : Bool
deriving DecidableEq, Repr, Inhabited

namespace CompiledModule

/-- A clean module compiled from its own file. -/
def fresh (id : FileId) (name : String) : CompiledModule := ⟨id, id, name, false⟩

/-- The module with its marker set or cleared. -/
def mark (m : CompiledModule) (dirty : Bool) : CompiledModule := { m with dirty }

end CompiledModule

end Recompile
