import Recompile.FileId

/-!
# Logs of dependencies

Every dependency that is reported goes into a log, in the order of arrival, which outlives
what is kept in memory. A log may be shared: each handle on it sees what the others add.
-/

namespace Recompile

/-- How a dependency came about. -/
inductive EdgeKind where
  /-- An import of another module. -/
  | direct
  /-- The textual inclusion of another file. -/
  | inclusion
deriving DecidableEq, Repr

/-- One reported dependency. -/
structure EdgeRecord where
  dependent : FileId
  dependency : FileId
  kind : EdgeKind
deriving DecidableEq, Repr

/-- Where reported dependencies go. -/
inductive Store where
  /-- Nothing is kept. -/
  | discarding
  /-- Everything is kept, in the order of arrival. -/
  | keeping (log : Array EdgeRecord)
deriving DecidableEq

namespace Store

/-- Reports a dependency. -/
def record (s : Store) (r : EdgeRecord) : Store :=
  match s with
  | .discarding => .discarding
  | .keeping log => .keeping (log.push r)

/-- What has been kept. -/
def records : Store → List EdgeRecord
  | .discarding => []
  | .keeping log => log.toList

end Store

/-- Logs, and handles on them. Handles on one log share it. -/
structure SharedLogs where
  logs : Array (Array EdgeRecord) := #[#[]]
  /-- The log each handle stands for. -/
  handles : Array Nat := #[0]

namespace SharedLogs

/-- What a handle sees. -/
def records (s : SharedLogs) (handle : Nat) : Array EdgeRecord :=
  (s.handles[handle]?.bind fun l => s.logs[l]?).getD #[]

/-- Adds a dependency through a handle. -/
def record (s : SharedLogs) (handle : Nat) (r : EdgeRecord) : SharedLogs :=
  match s.handles[handle]? with
  | some l => { s with logs := s.logs.modify l fun log => log.push r }
  | none => s

/-- Another handle on the same log. -/
def share (s : SharedLogs) (handle : Nat) : Nat × SharedLogs :=
  (s.handles.size, { s with handles := s.handles.push (s.handles.getD handle s.logs.size) })

/-- A handle on a log of its own. -/
def fresh (s : SharedLogs) : Nat × SharedLogs :=
  (s.handles.size, ⟨s.logs.push #[], s.handles.push s.logs.size⟩)

end SharedLogs

end Recompile
