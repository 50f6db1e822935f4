import Recompile.Path.Basic

/-!
# Watch events

The operating system gives notice of accesses and changes, several paths at a time. Changes of
paths that are not ignored become events, one for each path, in the order of the notices.
-/

namespace Recompile

/-- How a file changed. -/
inductive ChangeKind where
  | created
  | modified
  | removed
deriving DecidableEq, Repr

/-- A change of one file. -/
structure Event where
  kind : ChangeKind
  path : Path
deriving DecidableEq, Repr

/-- A notice of the operating system. One without a kind is not about a change. -/
structure Notice where
  kind : Option ChangeKind
  paths : List Path
deriving DecidableEq, Repr

/-- The directories whose contents are not watched. -/
def ignoredNames : List String := ["target", ".git", "node_modules"]

/-- A path with an ignored name anywhere in it. -/
def Path.isIgnored (p : Path) : Bool :=
  p.components.any fun c =>
    match c with
    | .name name => ignoredNames.contains name
    | _ => false

namespace Notice

/-- The events a notice is about. -/
def events (n : Notice) : List Event :=
  match n.kind with
  | none => []
  | some kind => (n.paths.filter fun p => !p.isIgnored).map fun p => ⟨kind, p⟩

end Notice

end Recompile
