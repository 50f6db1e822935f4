import Recompile.FileId

/-!
# Stacks of files

The chain of files being worked on, the innermost last.
-/

namespace Recompile

/-- A chain of files, outermost first. -/
structure FileStack where
  frames : Array FileId := #[]
deriving DecidableEq, Repr

namespace FileStack

/-- No file is being worked on. -/
def empty : FileStack := {}

/-- Enters a file. -/
def push (s : FileStack) (id : FileId) : FileStack := ⟨s.frames.push id⟩

/-- The innermost file. -/
def top (s : FileStack) : Option FileId := s.frames.back?

/-- Leaves the innermost file. -/
def pop (s : FileStack) : Option FileId × FileStack := (s.top, ⟨s.frames.pop⟩)

/-- Whether a file is anywhere in the chain. -/
def contains (s : FileStack) (id : FileId) : Bool := s.frames.contains id

/-- The chain, outermost first. -/
def toList (s : FileStack) : List FileId := s.frames.toList

/-- The length of the chain. -/
def size (s : FileStack) : Nat := s.frames.size

/-- Whether the chain is empty. -/
def isEmpty (s : FileStack) : Bool := s.frames.isEmpty

end FileStack

end Recompile
