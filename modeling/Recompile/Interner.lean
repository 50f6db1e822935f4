import Recompile.Fault
import Recompile.Machine

/-!
# The table of files

Each path is given a number on first sight and keeps it for good. The number is the place
of the path in the table, so the numbers in use are the ones below its size, and the
spelling kept for a place is the first one it was seen with.
-/

namespace Recompile

/-- The paths that have a number, in the order in which they were first seen. -/
structure Interner where
  paths : Array Path := #[]

namespace Interner

/-- The table without files. -/
def empty : Interner := {}

/-- The number of a path, if it has one. -/
def lookup (t : Interner) (p : Path) : Option FileId :=
  let steps := p.components
  (t.paths.findIdx? fun q => q.components = steps).map FileId.ofIndex

/-- The number of a path; a new path gets the next free one. -/
def intern (t : Interner) (p : Path) : Except Fault (FileId × Interner) :=
  match t.lookup p with
  | some id => .ok (id, t)
  | none =>
    if FileId.max.val.toNatClampNeg < t.paths.size then .error (.fileLimit p)
    else .ok (FileId.ofIndex t.paths.size, ⟨t.paths.push p⟩)

/-- The spelling kept for a number. -/
def path (t : Interner) (id : FileId) : Option Path :=
  id.index.bind fun i => t.paths[i]?

/-- The number of a path, or the fault that it has none. -/
def fileId (t : Interner) (p : Path) : Except Fault FileId :=
  match t.lookup p with
  | some id => .ok id
  | none => .error (.unknownFile p)

/-- How many files have a number. -/
def size (t : Interner) : Nat := t.paths.size

/-- Whether no file has a number. -/
def isEmpty (t : Interner) : Bool := t.paths.isEmpty

/-- The files with their numbers, in order. -/
def toList (t : Interner) : List (FileId × Path) :=
  t.paths.toList.zipIdx.map fun (p, i) => (FileId.ofIndex i, p)

/-! ### Histories -/

/-- What can be asked of a table of files. -/
inductive Step where
  | intern (path : Path)
  | lookup (path : Path)
  | path (id : FileId)
  | size
  | isEmpty
  | toList

/-- What a table of files answers. -/
inductive Answer where
  | fault (cause : Fault)
  | file (id : Option FileId)
  | path (spelling : Option Path)
  | count (n : Nat)
  | flag (b : Bool)
  | files (entries : List (FileId × Path))

/-- One step of a table of files. -/
def step (t : Interner) : Step → Interner × Answer
  | .intern p =>
    match t.intern p with
    | .ok (id, t') => (t', .file (some id))
    | .error cause => (t, .fault cause)
  | .lookup p => (t, .file (t.lookup p))
  | .path id => (t, .path (t.path id))
  | .size => (t, .count t.size)
  | .isEmpty => (t, .flag t.isEmpty)
  | .toList => (t, .files t.toList)

/-- The steps of a history, from the table without files. -/
def run (steps : List Step) : Interner × List Answer := runSteps step empty steps

end Interner

end Recompile
