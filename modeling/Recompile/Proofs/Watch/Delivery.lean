import Mathlib.Data.List.Basic
import Mathlib.Data.List.Induction
import Recompile.Session.Step
import Recompile.Watch.Service
import Recompile.Proofs.Session.Marking

/-!
# Delivery of watch events

Applying events never changes which files are tracked, so what is reported of a list of events is
told event by event (`Session.reportsOf`). A call of the service applies the first events of its
queue (`Service.handleAll`) and leaves the others where they are. So it makes no difference into
how many calls a run is cut, nor where.
-/

namespace Recompile

namespace Session

variable {canonicalize : Path → Option Path} {s : Session} {e : Event} {events : List Event}
  {file : FileId}

/-! ### Events and their reports -/

/-- The session after events have been applied, in order. -/
def afterEvents (canonicalize : Path → Option Path) (s : Session) (events : List Event) :
    Session :=
  events.foldl (fun s e => (s.applyEvent canonicalize e).2) s

/-- The reports of events that are applied in order. There is one for each event about a tracked
file: what a change of the file touches once the events before it have been applied. -/
def reportsOf (canonicalize : Path → Option Path) (s : Session) (events : List Event) :
    List DirtyReport :=
  events.zipIdx.filterMap fun (e, n) =>
    (s.resolve canonicalize e.path).map fun file =>
      ⟨e.path, file, ((s.afterEvents canonicalize (events.take n)).invalidate file).1⟩

theorem afterEvents_concat :
  s.afterEvents canonicalize (events ++ [e])
    = ((s.afterEvents canonicalize events).applyEvent canonicalize e).2
  := List.foldl_concat _ _ _ _

/-- A path that is not tracked is looked up once more as the system spells it. -/
theorem resolve_eq (s : Session) (canonicalize : Path → Option Path) (p : Path) :
  s.resolve canonicalize p
    = (s.interner.lookup p).or ((canonicalize p).bind s.interner.lookup)
  := by
  rw [resolve]
  cases s.interner.lookup p with
  | none => rfl
  | some id => rfl

/-- An event about a file that is not tracked changes nothing and is not reported. -/
theorem applyEvent_of_untracked (h : s.resolve canonicalize e.path = none) :
  s.applyEvent canonicalize e = (none, s)
  := by
  rw [applyEvent, h]

/-- An event about a tracked file is a change of this file. -/
theorem applyEvent_of_tracked (h : s.resolve canonicalize e.path = some file) :
  s.applyEvent canonicalize e
    = (some ⟨e.path, file, (s.invalidate file).1⟩, (s.invalidate file).2)
  := by
  rw [applyEvent, h]

theorem fst_applyEvent :
  (s.applyEvent canonicalize e).1
    = (s.resolve canonicalize e.path).map fun file => ⟨e.path, file, (s.invalidate file).1⟩
  := by
  cases h : s.resolve canonicalize e.path with
  | none => rw [applyEvent_of_untracked h, Option.map_none]
  | some file => rw [applyEvent_of_tracked h, Option.map_some]

/-- A change of a file gives no path a number. -/
theorem interner_invalidate (s : Session) (file : FileId) :
  (s.invalidate file).2.interner = s.interner
  := by
  have htouch (owner : FileId) : (s.touchOwner owner).2.interner = s.interner := by
    rw [touchOwner]
    split_ifs <;> rfl
  by_cases hmode : s.suggests
  · by_cases hfile : file = s.parent file
    · rw [invalidate_eq_of_parent hmode hfile]
      apply htouch
    · rw [invalidate_eq hmode hfile]
      apply htouch
  · rw [invalidate, if_neg hmode]

/-- Nor does any number of events. -/
theorem interner_afterEvents (s : Session) (events : List Event) :
  (s.afterEvents canonicalize events).interner = s.interner
  := by
  induction events using List.reverseRecOn with
  | nil => rfl
  | append_singleton events e ih =>
      rw [afterEvents_concat]
      cases h : (s.afterEvents canonicalize events).resolve canonicalize e.path with
      | none =>
          rw [applyEvent_of_untracked h]
          apply ih
      | some file =>
          rw [applyEvent_of_tracked h, interner_invalidate]
          apply ih

/-- Which files are tracked is the same after any events. -/
theorem resolve_afterEvents (s : Session) (events : List Event) (p : Path) :
  (s.afterEvents canonicalize events).resolve canonicalize p = s.resolve canonicalize p
  := by
  rw [resolve_eq, resolve_eq, interner_afterEvents]

/-- An event about a file that is not tracked changes nothing. -/
theorem afterEvents_of_untracked (h : s.resolve canonicalize e.path = none) :
  s.afterEvents canonicalize (events ++ [e]) = s.afterEvents canonicalize events
  := by
  rw [afterEvents_concat, applyEvent_of_untracked]
  rw [resolve_afterEvents, h]

/-- One more event has at most one more report. -/
theorem reportsOf_concat :
  s.reportsOf canonicalize (events ++ [e])
    = s.reportsOf canonicalize events
      ++ ((s.afterEvents canonicalize events).applyEvent canonicalize e).1.toList
  := by
  rw [reportsOf, List.zipIdx_append, List.filterMap_append, reportsOf]
  congr 1
  · apply List.filterMap_congr
    rintro ⟨e', n⟩ h
    -- The events before an old event are the old ones.
    have hn : n ≤ events.length := by
      obtain ⟨-, hn, -⟩ := List.mem_zipIdx h
      omega
    simp only [List.take_append_of_le_length hn]
  · simp only [fst_applyEvent, resolve_afterEvents, Nat.zero_add, List.zipIdx_singleton,
      List.filterMap_cons, List.filterMap_nil, List.take_left]
    cases s.resolve canonicalize e.path with
    | none => rfl
    | some file => rfl

end Session

namespace Service

variable {canonicalize : Path → Option Path} {svc : Service} {e : Event} {events : List Event}

/-! ### One call -/

/-- The service when other events wait. -/
def waiting (svc : Service) (queue : List Event) : Service := { svc with queue }

theorem waiting_waiting (queue queue' : List Event) :
  (svc.waiting queue).waiting queue' = svc.waiting queue'
  := rfl

theorem enqueue_eq (svc : Service) (events : List Event) :
  svc.enqueue events = svc.waiting (svc.queue ++ events)
  := rfl

/-- The service after events have been applied, in order, whether they waited or not. -/
def handleAll (canonicalize : Path → Option Path) (svc : Service) (events : List Event) :
    Service :=
  events.foldl (fun svc e => (svc.handle canonicalize e).2) svc

theorem handleAll_concat :
  svc.handleAll canonicalize (events ++ [e])
    = ((svc.handleAll canonicalize events).handle canonicalize e).2
  := List.foldl_concat _ _ _ _

theorem handleAll_cons :
  svc.handleAll canonicalize (e :: events)
    = (svc.handle canonicalize e).2.handleAll canonicalize events
  := rfl

/-- Events can be handled in two parts. -/
theorem handleAll_append (events' : List Event) :
  svc.handleAll canonicalize (events ++ events')
    = (svc.handleAll canonicalize events).handleAll canonicalize events'
  := List.foldl_append

/-- Events are applied to the session, and their reports go to whoever listens. -/
theorem handleAll_eq (canonicalize : Path → Option Path) (svc : Service) (events : List Event) :
  svc.handleAll canonicalize events
    = { svc with
        session := svc.session.afterEvents canonicalize events
        reports := svc.reports
          ++ if svc.listening then svc.session.reportsOf canonicalize events else [] }
  := by
  induction events using List.reverseRecOn with
  | nil =>
      have h : (if svc.listening then svc.session.reportsOf canonicalize [] else []) = [] := by
        split_ifs <;> rfl
      rw [h, List.append_nil]
      rfl
  | append_singleton events e ih =>
      rw [handleAll_concat, ih, handle, Session.afterEvents_concat, Session.reportsOf_concat]
      by_cases hlistening : svc.listening
      · simp only [hlistening, if_true, List.append_assoc]
      · simp only [hlistening, Bool.false_eq_true, if_false, List.append_nil]

/-- What waits makes no difference to how events are applied. -/
theorem handleAll_waiting (queue : List Event) :
  (svc.waiting queue).handleAll canonicalize events
    = (svc.handleAll canonicalize events).waiting queue
  := by
  rw [handleAll_eq, handleAll_eq]
  rfl

/-- Events are applied up to the first poll that asks to stop, and the others are left in the
queue. -/
theorem go_eq (canonicalize : Path → Option Path) (stops : Nat → Bool) (queue : List Event)
    (n : Nat) (svc : Service) :
  ∃ done rest, queue = done ++ rest
    ∧ (∀ i < done.length, stops (n + i) = false) ∧ (rest = [] ∨ stops (n + done.length))
    ∧ process.go canonicalize stops queue n svc = (svc.handleAll canonicalize done).waiting rest
  := by
  induction queue generalizing n svc with
  | nil =>
      use [], [], rfl
      simp only [List.length_nil, Nat.not_lt_zero, false_implies, implies_true, true_or, true_and]
      rfl
  | cons e queue ih =>
      by_cases hstop : stops n
      · use [], e :: queue, rfl
        simp only [List.length_nil, Nat.not_lt_zero, false_implies, implies_true, Nat.add_zero,
          hstop, or_true, true_and]
        rw [process.go, if_pos hstop]
        rfl
      · obtain ⟨done, rest, rfl, hgo, hend, hsvc⟩ := ih (n + 1) (svc.handle canonicalize e).2
        use e :: done, rest, rfl
        constructor
        · intro i hi
          cases i with
          | zero => simpa using hstop
          | succ i =>
              rw [Nat.add_comm i 1, ← Nat.add_assoc]
              apply hgo i (Nat.lt_of_succ_lt_succ hi)
        constructor
        · rw [List.length_cons, Nat.add_comm done.length 1, ← Nat.add_assoc]
          apply hend
        · rw [process.go, if_neg hstop, hsvc, handleAll_cons]

/-- A call applies the events before the first poll that asks to stop, and leaves the others in
the queue. -/
theorem process_waiting (canonicalize : Path → Option Path) (stops : Nat → Bool)
    (queue : List Event) (svc : Service) :
  ∃ done rest, queue = done ++ rest
    ∧ (∀ n < done.length, stops n = false) ∧ (rest = [] ∨ stops done.length)
    ∧ (svc.waiting queue).process canonicalize stops
      = (svc.handleAll canonicalize done).waiting rest
  := by
  obtain ⟨done, rest, hqueue, hgo, hend, hsvc⟩ :=
    go_eq canonicalize stops queue 0 (svc.waiting queue)
  simp only [Nat.zero_add] at hgo hend
  use done, rest, hqueue, hgo, hend
  apply hsvc.trans
  rw [handleAll_waiting, waiting_waiting]

/-- A call that is never asked to stop applies everything that waits. -/
theorem process_never (queue : List Event) (svc : Service) :
  (svc.waiting queue).process canonicalize (fun _ => false)
    = (svc.handleAll canonicalize queue).waiting []
  := by
  obtain ⟨done, rest, hqueue, -, hend, hsvc⟩ :=
    process_waiting canonicalize (fun _ => false) queue svc
  obtain rfl : rest = [] := by simpa using hend
  rw [hsvc, hqueue, List.append_nil]

/-! ### Runs cut into calls -/

/-- A series of calls of the service. Before each call events may arrive. -/
def processAll (canonicalize : Path → Option Path) (svc : Service)
    (calls : List (List Event × (Nat → Bool))) : Service :=
  calls.foldl (fun svc call => (svc.enqueue call.1).process canonicalize call.2) svc

/-- A series of calls applies the first of all events that waited or arrived, and leaves the
others in the queue. -/
theorem processAll_eq (canonicalize : Path → Option Path)
    (calls : List (List Event × (Nat → Bool))) (queue : List Event) (svc : Service) :
  ∃ done rest, queue ++ calls.flatMap Prod.fst = done ++ rest
    ∧ (svc.waiting queue).processAll canonicalize calls
      = (svc.handleAll canonicalize done).waiting rest
  := by
  induction calls generalizing queue svc with
  | nil =>
      use [], queue, List.append_nil _
      rfl
  | cons call calls ih =>
      obtain ⟨arrivals, stops⟩ := call
      obtain ⟨done, rest, hqueue, -, -, hcall⟩ :=
        process_waiting canonicalize stops (queue ++ arrivals) svc
      obtain ⟨done', rest', hqueue', hcalls⟩ := ih rest (svc.handleAll canonicalize done)
      use done ++ done', rest'
      constructor
      · rw [List.flatMap_cons, ← List.append_assoc, hqueue, List.append_assoc, hqueue',
          List.append_assoc]
      · rw [handleAll_append, ← hcalls, ← hcall]
        rfl

/-- A call applies the events of the queue in order, up to the first poll that asks to stop, and
leaves the others waiting. There is one report for each applied event whose path, or else whose
canonical path, has a number, and the other events change nothing. However a run is cut into
calls, and whatever arrives between them, once nothing waits any more the service is the one that
a single call would have led to. -/
theorem process_delivers (canonicalize : Path → Option Path) (svc : Service) :
  let tracked (p : Path) :=
    (svc.session.interner.lookup p).or ((canonicalize p).bind svc.session.interner.lookup)
  let after (events : List Event) :=
    events.foldl (fun s e => (s.applyEvent canonicalize e).2) svc.session
  (∀ stops : Nat → Bool, ∃ done rest, svc.queue = done ++ rest
      ∧ (∀ n < done.length, stops n = false) ∧ (rest = [] ∨ stops done.length)
      ∧ svc.process canonicalize stops
        = { svc with
            queue := rest
            session := after done
            reports := svc.reports
              ++ if svc.listening then
                  done.zipIdx.filterMap fun (e, n) =>
                    (tracked e.path).map fun file =>
                      ⟨e.path, file, ((after (done.take n)).invalidate file).1⟩
                else [] })
    ∧ (∀ (events : List Event) (e : Event), tracked e.path = none →
        after (events ++ [e]) = after events)
    ∧ ∀ calls : List (List Event × (Nat → Bool)),
        let svc' := calls.foldl
          (fun svc call => (svc.enqueue call.1).process canonicalize call.2) svc
        svc'.queue = [] →
          svc' = (svc.enqueue (calls.flatMap Prod.fst)).process canonicalize fun _ => false
  := by
  intro tracked after
  have htracked : tracked = svc.session.resolve canonicalize := by
    funext p
    symm
    apply Session.resolve_eq
  constructor
  · intro stops
    obtain ⟨done, rest, hqueue, hgo, hend, hsvc⟩ :=
      process_waiting canonicalize stops svc.queue svc
    use done, rest, hqueue, hgo, hend
    apply hsvc.trans
    rw [handleAll_eq, htracked]
    rfl
  constructor
  · intro events e he
    rw [htracked] at he
    apply Session.afterEvents_of_untracked he
  · intro calls svc' hempty
    obtain ⟨done, rest, hqueue, hsvc⟩ :=
      processAll_eq canonicalize calls svc.queue svc
    have hsvc' : svc' = (svc.handleAll canonicalize done).waiting rest := hsvc
    obtain rfl : rest = [] := by
      rw [hsvc'] at hempty
      apply hempty
    rw [enqueue_eq, process_never, hqueue, List.append_nil, hsvc']

/-- A module and one that depends on it. A change of the first waits, then one of a file that is
not tracked, then one of the second. -/
def importedModule : Service where
  watcher := { root := ⟨"/p"⟩ }
  session := ((Session.new .suggest).run [
    .intern ⟨"/p/base"⟩, .register (.fresh ⟨0⟩ "base"),
    .intern ⟨"/p/app"⟩, .register (.fresh ⟨1⟩ "app"), .addDep (.fresh ⟨1⟩ "app") ⟨0⟩]).1
  queue := [⟨.modified, ⟨"/p/base"⟩⟩, ⟨.created, ⟨"/p/new"⟩⟩, ⟨.removed, ⟨"/p/app"⟩⟩]

/-- The first call stops before its second event, and the second call applies the others. -/
theorem importedModule_delivers :
  let calls : List (List Event × (Nat → Bool)) := [([], fun n => n = 1), ([], fun _ => false)]
  let svc' := calls.foldl
    (fun svc call => (svc.enqueue call.1).process (fun _ => none) call.2) importedModule
  svc'.queue = []
    ∧ svc' = (importedModule.enqueue (calls.flatMap Prod.fst)).process (fun _ => none)
        fun _ => false
  := by
  intro calls svc'
  have hempty : svc'.queue = [] := rfl
  use hempty
  apply (process_delivers (fun _ => none) importedModule).2.2 calls hempty

end Service

end Recompile
