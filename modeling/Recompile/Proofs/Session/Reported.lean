import Recompile.Proofs.Dependency.History
import Recompile.Proofs.Dependency.Search
import Recompile.Proofs.Session.Steps

/-!
# The graph and the log

An editor's assistant keeps the direct dependencies twice, in its graph and in the log, and the
log also outlives a reset. Whatever happens in a session, its graph tells of the direct
dependencies that the log has received since the last reset (`Follows`). So marking the clients
of a file, one scan over the loaded modules, finds what a search through the log would find.
-/

namespace Recompile

open FileId (Ascending)

/-! ### The log -/

/-- The direct dependencies of known files among the records of a log. -/
def directPairs (records : List EdgeRecord) : List (FileId × FileId) :=
  (records.filter fun r => r.kind = .direct ∧ r.dependent.isKnown).map
    fun r => (r.dependent, r.dependency)

theorem directPairs_append (rs rs' : List EdgeRecord) :
  directPairs (rs ++ rs') = directPairs rs ++ directPairs rs'
  := by
  simp [directPairs]

theorem directPairs_nil :
  directPairs [] = []
  := rfl

theorem directPairs_direct (a b : FileId) :
  directPairs [⟨a, b, .direct⟩] = if a.isKnown then [(a, b)] else []
  := by
  by_cases h : a.isKnown <;> simp [directPairs, h]

namespace Session

variable {s : Session} {n : Nat}

/-- How many records the log had at the last reset, once a step has been taken. -/
def startOver (s : Session) (n : Nat) : Step → Nat
  | .reset => s.store.records.length
  | _ => n

theorem startOver_of_ne {i : Step} (hi : i ≠ .reset) :
  s.startOver n i = n
  := by
  cases i with
  | reset => contradiction
  | _ => rfl

/-- The records that a history leaves behind the first `n`, or behind those that were there at
its last reset. -/
def recordsAfter (s : Session) (n : Nat) : List Step → List EdgeRecord
  | [] => s.store.records.drop n
  | i :: is => (s.step i).1.recordsAfter (s.startOver n i) is

/-- The records that a history appends to the log after its last reset. -/
def sinceReset (s : Session) (steps : List Step) : List EdgeRecord :=
  s.recordsAfter s.store.records.length steps

/-- A new session in suggest mode that reports to a log. -/
def assistant (traceStatements : Bool) (hooks : Hooks) (log : Array EdgeRecord) : Session :=
  { new { mode := .suggest, traceStatements } with hooks, store := .keeping log }

/-! ### The invariant -/

/-- The graph tells of the direct dependencies behind the first `n` records of the log. -/
structure Follows (s : Session) (n : Nat) : Prop where
  suggests : s.suggests
  keeping : ∃ log, s.store = .keeping log
  le_length : n ≤ s.store.records.length
  placed : s.registry.Placed
  graph : s.graph.TellsOf (directPairs (s.store.records.drop n))

/-- A new session follows the log from its end on. -/
theorem follows_assistant (traceStatements : Bool) (hooks : Hooks) (log : Array EdgeRecord) :
  (assistant traceStatements hooks log).Follows log.size
  where
  suggests := rfl
  keeping := ⟨log, rfl⟩
  le_length := Nat.le_refl _
  placed := Registry.placed_empty
  graph := by
    have h : log.toList.drop log.size = [] := List.drop_of_length_le (Nat.le_refl _)
    rw [assistant, Store.records, h]
    apply DependencyGraph.records_empty.congr
    simp [directPairs]

/-- A log is kept, and grows by what a step reports. -/
theorem records_step (hkeep : ∃ log, s.store = .keeping log) (hs : s.registry.Placed)
    (i : Step) :
  (∃ log, (s.step i).1.store = .keeping log)
    ∧ (s.step i).1.store.records = s.store.records ++ i.report.toList
  := by
  obtain ⟨log, h⟩ := hkeep
  rw [store_step hs, h]
  cases i.report with
  | none => simp
  | some r => simp [Store.record, Store.records]

/-- Adding a dependency is the only step that reports a direct one. -/
theorem directPairs_report {i : Step} (hi : ¬ ∃ m dependency, i = .addDep m dependency) :
  directPairs i.report.toList = []
  := by
  cases i with
  | addDep m dependency => cases hi ⟨m, dependency, rfl⟩
  | _ => rfl

/-- Adding a dependency inserts what it reports. -/
theorem tellsOf_addDep (hmode : s.suggests) {pairs : List (FileId × FileId)}
    (hg : s.graph.TellsOf pairs) (m : CompiledModule) (dependency : FileId) :
  (s.step (.addDep m dependency)).1.graph.TellsOf
    (pairs ++ directPairs (Step.addDep m dependency).report.toList)
  := by
  rw [fst_step_addDep, fst_addDep, Step.report]
  by_cases h : m.id = m.origin ∧ dependency.isKnown
  · have h' := hg.step (.insert m.id dependency)
    rw [DependencyGraph.noteStep] at h'
    rw [if_pos h, if_pos h, if_pos hmode, Option.toList_some, directPairs_direct]
    by_cases hm : m.id.isKnown
    · rw [if_pos ⟨hm, h.2⟩] at h'
      rw [if_pos hm]
      apply h'
    · rw [if_neg fun h => hm h.1] at h'
      rw [if_neg hm, List.append_nil]
      apply h'
  · rw [if_neg h, if_neg h, Option.toList_none, directPairs_nil, List.append_nil]
    apply hg

/-- Apart from a reset, every step adds to the graph the direct dependency it reports. -/
theorem tellsOf_step (hmode : s.suggests) (hs : s.registry.Placed) {i : Step} (hi : i ≠ .reset)
    {pairs : List (FileId × FileId)} (hg : s.graph.TellsOf pairs) :
  (s.step i).1.graph.TellsOf (pairs ++ directPairs i.report.toList)
  := by
  by_cases hdep : ∃ m dependency, i = .addDep m dependency
  · obtain ⟨m, dependency, rfl⟩ := hdep
    apply tellsOf_addDep hmode hg
  · rw [directPairs_report hdep, List.append_nil]
    rcases graph_step_cases hs i with h | h | h | h
    · contradiction
    · contradiction
    · rw [h]
      apply hg
    · rw [h]
      apply DependencyGraph.Records.close hg

/-- The graph goes on telling of the log whatever step is taken. -/
theorem Follows.step (h : s.Follows n) (i : Step) :
  (s.step i).1.Follows (s.startOver n i)
  := by
  obtain ⟨hkeep, hrecords⟩ := records_step h.keeping h.placed i
  have hsuggests : (s.step i).1.suggests := by
    rw [Session.suggests, (settings_step h.placed i).1]
    apply h.suggests
  by_cases hi : i = .reset
  · subst hi
    exact {
      suggests := hsuggests
      keeping := hkeep
      le_length := Nat.le_refl _
      placed := placed_step h.placed _
      graph := by
        apply DependencyGraph.records_empty.congr
        simp [startOver, hrecords, Step.report, directPairs] }
  · rw [startOver_of_ne hi]
    exact {
      suggests := hsuggests
      keeping := hkeep
      le_length := by
        rw [hrecords, List.length_append]
        apply Nat.le_add_right_of_le h.le_length
      placed := placed_step h.placed i
      graph := by
        rw [hrecords, List.drop_append_of_le_length h.le_length, directPairs_append]
        apply tellsOf_step h.suggests h.placed hi h.graph }

/-- After any history the graph tells of the direct dependencies since the last reset. -/
theorem Follows.run (h : s.Follows n) (steps : List Step) :
  (s.run steps).1.suggests ∧ (s.run steps).1.registry.Placed
    ∧ (s.run steps).1.graph.TellsOf (directPairs (s.recordsAfter n steps))
  := by
  induction steps generalizing s n with
  | nil => exact ⟨h.suggests, h.placed, h.graph⟩
  | cons i is ih => apply ih (h.step i)

/-- In every reachable state of an editor's assistant, marking the clients of a file marks
exactly the loaded modules that a backward search over the direct dependencies logged since the
last reset leads to, and the file itself only if it was logged to depend on itself. They are
returned in order, and nothing but the markers is changed. -/
theorem run_markClients_finds_search (traceStatements : Bool) (hooks : Hooks)
    (log : Array EdgeRecord) (steps : List Step) (id : FileId) :
  let start := assistant traceStatements hooks log
  let s := (start.run steps).1
  let pairs := directPairs (start.sinceReset steps)
  ∃ ids s', s.step (.markClients id) = (s', .files ids) ∧ s.Marks ids s' ∧ Ascending ids
    ∧ ∀ m, m ∈ ids ↔ s.registry.contains m
        ∧ (m ≠ id ∧ m ∈ searchBack pairs id ∨ m = id ∧ (id, id) ∈ pairs)
  := by
  intro start s pairs
  obtain ⟨-, hs, hg⟩ := (follows_assistant traceStatements hooks log).run steps
  use (s.markClients id).1, (s.markClients id).2, rfl
  use marks_markClients hs id, markClients_ascending hs
  intro m
  rw [mem_markClients hs, DependencyGraph.Records.closed_contains_iff hg,
    dependsOn_iff_searchBack]
  rfl

end Session

end Recompile
