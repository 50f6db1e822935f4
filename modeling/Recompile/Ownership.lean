import Recompile.FileId
import Recompile.Machine

/-!
# Owners of include files

The first module that includes a file owns it. Later includers do not change that.
-/

namespace Recompile

/-- The owned files with their owners, in the order in which they were recorded. -/
structure Ownership where
  owners : List (FileId × FileId) := []
deriving DecidableEq

namespace Ownership

/-- No file has an owner. -/
def empty : Ownership := {}

/-- The owner of a file. -/
def owner (t : Ownership) (file : FileId) : Option FileId := t.owners.lookup file

/-- Makes `module` the owner of `file`, unless the file has one, and returns the owner it then
has. -/
def record (t : Ownership) (file module : FileId) : FileId × Ownership :=
  match t.owner file with
  | some m => (m, t)
  | none => (module, ⟨t.owners ++ [(file, module)]⟩)

/-- How many files have an owner. -/
def size (t : Ownership) : Nat := t.owners.length

/-- Whether no file has an owner. -/
def isEmpty (t : Ownership) : Bool := t.owners.isEmpty

theorem owner_record (t : Ownership) (file module other : FileId) :
  (t.record file module).2.owner other
    = if other = file then some ((t.owner file).getD module) else t.owner other
  := by
  unfold record
  split
  · next m h =>
    split
    · next e => simp [e, h]
    · rfl
  · next h =>
    by_cases e : other = file
    · subst e
      have h' : t.owners.lookup other = none := h
      simp [owner, List.lookup_append, h']
    · simp [owner, List.lookup_append, e]

/-! ### Histories -/

/-- What can be asked of a table of owners. -/
inductive Step where
  | record (file module : FileId)
  | owner (file : FileId)
  | size
  | isEmpty
  | clear

/-- What a table of owners answers. -/
inductive Answer where
  | done
  | owner (module : Option FileId)
  | count (n : Nat)
  | flag (b : Bool)

/-- One step of a table of owners. -/
def step (t : Ownership) : Step → Ownership × Answer
  | .record file module => let (m, t') := t.record file module; (t', .owner (some m))
  | .owner file => (t, .owner (t.owner file))
  | .size => (t, .count t.size)
  | .isEmpty => (t, .flag t.isEmpty)
  | .clear => (empty, .done)

/-- The steps of a history, from the table without owners. -/
def run (steps : List Step) : Ownership × List Answer := runSteps step empty steps

end Ownership

end Recompile
