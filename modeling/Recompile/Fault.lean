import Recompile.FileId
import Recompile.Path.Basic

/-!
# Faults

Everything that can go wrong with a table or a session is a cause of its own here. The
wording of each cause is `Fault.message`.
-/

namespace Recompile

/-- Why an operation was refused. -/
inductive Fault where
  /-- Every non-negative number has been handed out. -/
  | fileLimit (path : Path)
  /-- The path was never given a number. -/
  | unknownFile (path : Path)
  /-- The keys of a table are written once. -/
  | duplicateKey (table key : String)
  /-- The sum does not fit the range of a counter. -/
  | counterOverflow (counter : String)
  /-- A loader gave up on a file. -/
  | loadFailed (file : FileId) (reason : String)
  /-- An edge needs two known files. -/
  | unencodableEdge (dependent dependency : FileId)
  /-- A module without a number has no slot. -/
  | noSlot (name : String) (id : FileId)
  /-- A module claims another file's slot. -/
  | wrongOrigin (name : String) (id origin : FileId)
  /-- A module cannot depend on a file that is not known. -/
  | unknownDependency (name : String)
deriving DecidableEq, Repr

namespace Fault

/-- The wording of a cause. -/
def message : Fault → String
  | fileLimit path => s!"file limit exceeded: cannot intern {path}"
  | unknownFile path => s!"unknown file: {path}"
  | duplicateKey table key => s!"key `{key}` already present in cache table `{table}`"
  | counterOverflow counter => s!"cache counter `{counter}` overflowed"
  | loadFailed file reason => s!"failed to load {file}: {reason}"
  | unencodableEdge dependent dependency => s!"cannot encode edge {dependent} -> {dependency}"
  | noSlot name id => s!"cannot register module `{name}` with id {id}"
  | wrongOrigin name id origin =>
    s!"module `{name}` registered as {id} but elaborated from {origin}"
  | unknownDependency name => s!"module `{name}` depends on an unknown file"

end Fault

end Recompile
