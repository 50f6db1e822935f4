import Recompile.Session.Dirty
import Recompile.Watch.FileWatcher

/-!
# The watch service

Events wait in a queue and are applied to the session one at a time. Whoever listens is sent one
report for each event about a tracked file.
-/

namespace Recompile

/-- A changed file and the modules that became dirty. -/
structure DirtyReport where
  /-- The path of the event. -/
  path : Path
  file : FileId
  dirty : List FileId
deriving DecidableEq, Repr

namespace Session

/-- The tracked file a path leads to: the path as it is, or else the canonical path. -/
def resolve (s : Session) (canonicalize : Path → Option Path) (p : Path) : Option FileId :=
  match s.interner.lookup p with
  | some id => some id
  | none => (canonicalize p).bind s.interner.lookup

/-- Invalidates the file an event is about. A file that is not tracked changes nothing. -/
def applyEvent (s : Session) (canonicalize : Path → Option Path) (e : Event) :
    Option DirtyReport × Session :=
  match s.resolve canonicalize e.path with
  | none => (none, s)
  | some file =>
    let (dirty, s) := s.invalidate file
    (some ⟨e.path, file, dirty⟩, s)

end Session

/-- A session with a watcher and the events that wait to be applied. -/
structure Service where
  watcher : FileWatcher
  session : Session
  queue : List Event := []
  /-- Someone receives the reports. -/
  listening : Bool := true
  /-- The reports that were received. -/
  reports : List DirtyReport := []

namespace Service

/-- A service for the project below a directory, which is not watched yet. -/
def new (root : Path) (session : Session) : Service := { watcher := { root }, session }

/-- Starts to watch the project. -/
def start (svc : Service) (t : FileTree) : Option Service :=
  (svc.watcher.watchDirectory t svc.watcher.root).map fun watcher => { svc with watcher }

/-- Nobody receives reports any more. -/
def dropListener (svc : Service) : Service := { svc with listening := false }

/-- Applies one event and sends the report to whoever listens. -/
def handle (svc : Service) (canonicalize : Path → Option Path) (e : Event) :
    Option DirtyReport × Service :=
  let (report, session) := svc.session.applyEvent canonicalize e
  let reports := if svc.listening then svc.reports ++ report.toList else svc.reports
  (report, { svc with session, reports })

/-- Applies events until none waits or the answer to a poll is to stop. There is a poll before
each event; `stops n` is the answer to the poll after `n` events. -/
def process (canonicalize : Path → Option Path) (stops : Nat → Bool) (svc : Service) : Service :=
  go svc.queue 0 svc
where
  /-- Goes on with the given queue after `n` events. -/
  go : List Event → Nat → Service → Service
    | [], _, svc => { svc with queue := [] }
    | e :: queue, n, svc =>
      if stops n then { svc with queue := e :: queue }
      else go queue (n + 1) (svc.handle canonicalize e).2

/-- Lets events wait. -/
def enqueue (svc : Service) (events : List Event) : Service :=
  { svc with queue := svc.queue ++ events }

/-- Makes a change, the events of which wait then. -/
def change (svc : Service) (t : FileTree) (c : TreeChange) : Service × FileTree :=
  let (notices, watcher, t) := svc.watcher.change t c
  ({ svc with watcher }.enqueue (notices.flatMap Notice.events), t)

end Service

end Recompile
