import Recompile.Session.Basic

/-!
# Dirty modules

When a file changes, the module it belongs to and every loaded module that depends on either
need recompiling. The closed graph knows every indirect dependency, so finding them takes one
scan over the loaded modules.
-/

namespace Recompile

namespace Session

/-- Marks the module in a slot, if there is one. -/
def markDirty (s : Session) (id : FileId) : Session :=
  { s with registry := s.registry.modify id fun m => m.mark true }

/-- Clears the marker of the module in a slot, once it has been recompiled. -/
def clearDirty (s : Session) (id : FileId) : Session :=
  { s with registry := s.registry.modify id fun m => m.mark false }

/-- The loaded modules with an edge to `id` in the graph as it stands. -/
def clients (s : Session) (id : FileId) : List FileId :=
  (s.registry.modules.filter fun m => s.graph.contains m.id id).map (·.id)

/-- Marks every loaded module that depends on `id` and returns them in order. This closes the
graph. -/
def markClients (s : Session) (id : FileId) : List FileId × Session :=
  let s := s.close
  (s.clients id,
    { s with
      registry := s.registry.map fun m => if s.graph.contains m.id id then m.mark true else m })

/-- Whether the module in a slot needs recompiling. In batch mode none does. -/
def isDirty (s : Session) (id : FileId) : Bool :=
  s.suggests && (s.registry.get id).any (·.dirty)

/-- The modules that need recompiling, in order. In batch mode there are none. -/
def dirtyModules (s : Session) : List FileId :=
  if s.suggests then (s.registry.modules.filter (·.dirty)).map (·.id) else []

/-- The files of a list, each once, in order. -/
def inOrder (ids : List FileId) : List FileId := (Std.TreeSet.ofList ids).toList

/-- Marks the module at `owner` and its clients, if `owner` is a file at all. -/
def touchOwner (s : Session) (owner : FileId) : List FileId × Session :=
  if owner.isKnown then
    let s := s.markDirty owner
    let own := if s.registry.contains owner then [owner] else []
    let (clients, s) := s.markClients owner
    (own ++ clients, s)
  else ([], s)

/-- Reacts to a change of a file: marks the module it belongs to and the clients of both, and
returns them in order. In batch mode nothing happens. -/
def invalidate (s : Session) (file : FileId) : List FileId × Session :=
  if s.suggests then
    let owner := s.parent file
    let (near, s) := s.touchOwner owner
    let (far, s) := if file = owner then ([], s) else s.markClients file
    (inOrder (near ++ far), s)
  else ([], s)

end Session

end Recompile
