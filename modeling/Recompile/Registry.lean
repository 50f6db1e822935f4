import Recompile.CompiledModule
import Recompile.Fault
import Recompile.Machine

/-!
# The registry of loaded modules

A dense table with one slot per file number. Slots of include files, and of modules not
compiled yet, are empty.
-/

namespace Recompile

/-- The loaded modules, each in the slot of its number. -/
structure Registry where
  slots : Array (Option CompiledModule) := #[]
deriving DecidableEq

namespace Registry

/-- The registry without slots. -/
def empty : Registry := {}

/-- The module in a slot. -/
def get (r : Registry) (id : FileId) : Option CompiledModule :=
  id.index.bind fun i => r.slots[i]?.join

/-- Whether a slot holds a module. -/
def contains (r : Registry) (id : FileId) : Bool := (r.get id).isSome

/-- The table with slots for all numbers up to `i`. -/
def grow (r : Registry) (i : Nat) : Registry :=
  ⟨r.slots ++ Array.replicate (i + 1 - r.slots.size) none⟩

/-- Puts a module into the slot it claims and returns the one that was there. -/
def register (r : Registry) (m : CompiledModule) :
    Except Fault (Option CompiledModule × Registry) :=
  match m.id.index with
  | none => .error (.noSlot m.name m.id)
  | some i => .ok (r.get m.id, ⟨(r.grow i).slots.setIfInBounds i (some m)⟩)

/-- Empties a slot and returns the module that was there. -/
def unregister (r : Registry) (id : FileId) : Option CompiledModule × Registry :=
  match id.index with
  | none => (none, r)
  | some i => (r.get id, ⟨r.slots.setIfInBounds i none⟩)

/-- Changes the module in a slot, if there is one. -/
def modify (r : Registry) (id : FileId) (f : CompiledModule → CompiledModule) : Registry :=
  match id.index with
  | none => r
  | some i => ⟨r.slots.modify i (Option.map f)⟩

/-- Changes every loaded module. -/
def map (r : Registry) (f : CompiledModule → CompiledModule) : Registry :=
  ⟨r.slots.map (Option.map f)⟩

/-- The number of slots, empty ones included. -/
def size (r : Registry) : Nat := r.slots.size

/-- Whether no slot holds a module. -/
def isEmpty (r : Registry) : Bool := r.slots.all Option.isNone

/-- The loaded modules in the order of their slots. -/
def modules (r : Registry) : List CompiledModule := r.slots.toList.filterMap id

/-! ### Histories -/

/-- What can be asked of a registry. -/
inductive Step where
  | register (module : CompiledModule)
  | unregister (id : FileId)
  | get (id : FileId)
  | contains (id : FileId)
  | rename (id : FileId) (name : String)
  | renameAll (suffix : String)
  | size
  | isEmpty
  | modules
  | clear

/-- What a registry answers. -/
inductive Answer where
  | done
  | fault (cause : Fault)
  | slot (content : Option CompiledModule)
  | flag (b : Bool)
  | count (n : Nat)
  | modules (all : List CompiledModule)

/-- One step of a registry. -/
def step (r : Registry) : Step → Registry × Answer
  | .register m =>
    match r.register m with
    | .ok (old, r') => (r', .slot old)
    | .error cause => (r, .fault cause)
  | .unregister id => let (old, r') := r.unregister id; (r', .slot old)
  | .get id => (r, .slot (r.get id))
  | .contains id => (r, .flag (r.contains id))
  | .rename id name => (r.modify id fun m => { m with name }, .flag (r.contains id))
  | .renameAll suffix => (r.map fun m => { m with name := m.name ++ suffix }, .done)
  | .size => (r, .count r.size)
  | .isEmpty => (r, .flag r.isEmpty)
  | .modules => (r, .modules r.modules)
  | .clear => (empty, .done)

/-- The steps of a history, from the registry without slots. -/
def run (steps : List Step) : Registry × List Answer := runSteps step empty steps

end Registry

end Recompile
