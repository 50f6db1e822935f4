import Recompile.Proofs.Session.Owners
import Recompile.Proofs.Session.Restart

/-!
# What a change touches

A change of a file touches the module the file belongs to, if it is loaded, and the clients of both:
the loaded modules that depend on one of them by the direct dependencies reported since the last
reset. The log may have gone anywhere: a session that discards it answers like one that keeps it.
-/

namespace Recompile

open FileId (Ascending)

namespace Session

variable {s : Session} {pairs : List (FileId × FileId)} {x m file : FileId}

/-- A loaded module that depends on a file, given the direct dependencies. -/
def IsClient (s : Session) (pairs : List (FileId × FileId)) (m file : FileId) : Prop :=
  s.registry.contains m ∧ DependsOn (fun a b => (a, b) ∈ pairs) m file

/-- The clients of a file are the loaded modules with an edge to it in the closed graph. -/
theorem isClient_iff (hg : s.graph.TellsOf pairs) :
  s.IsClient pairs m file ↔ s.registry.contains m ∧ s.graph.closed.contains m file
  := by
  rw [DependencyGraph.Records.closed_contains_iff hg]
  rfl

/-- A change touches the owner of the file, if it is loaded, the clients of the owner, if that is a
file at all, and the clients of the file itself. -/
theorem mem_invalidate_iff (hmode : s.suggests) (hs : s.registry.Placed)
    (hg : s.graph.TellsOf pairs) :
  x ∈ (s.invalidate file).1
    ↔ x = s.parent file ∧ s.registry.contains (s.parent file)
      ∨ (s.parent file).isKnown ∧ s.IsClient pairs x (s.parent file)
      ∨ file ≠ s.parent file ∧ s.IsClient pairs x file
  := by
  rw [mem_invalidate hs, isClient_iff hg, isClient_iff hg]
  constructor
  · rintro ⟨-, hx, ⟨ho, rfl | hedge⟩ | ⟨hne, hedge⟩⟩
    · left
      use rfl, hx
    · right
      left
      use ho, hx, hedge
    · right
      right
      use hne, hx, hedge
  · rintro (⟨rfl, hx⟩ | ⟨ho, hx, hedge⟩ | ⟨hne, hx, hedge⟩)
    · use hmode, hx
      left
      use Registry.isKnown_of_contains hx
      left
      rfl
    · use hmode, hx
      left
      use ho
      right
      apply hedge
    · use hmode, hx
      right
      use hne, hedge

/-- No module is a client of a file on which nothing depends directly. -/
theorem not_isClient (hno : ∀ m, (m, file) ∉ pairs) :
  ¬ s.IsClient pairs m file
  := by
  rintro ⟨-, h⟩
  obtain ⟨y, -, hy⟩ := Relation.TransGen.tail'_iff.mp h.transGen
  apply hno y hy

/-- A change touches nothing if the file is not loaded, has no owner, and nothing depends on it. -/
theorem invalidate_eq_nil (hmode : s.suggests) (hs : s.registry.Placed)
    (hg : s.graph.TellsOf pairs) (hload : ¬ s.registry.contains file)
    (howner : s.ownership.owner file = none) (hno : ∀ m, (m, file) ∉ pairs) :
  (s.invalidate file).1 = []
  := by
  have hparent : s.parent file = .unknown := by
    rw [parent_of_not_contains hload, howner]
    rfl
  apply List.eq_nil_iff_forall_not_mem.mpr
  intro x hx
  rw [mem_invalidate_iff hmode hs hg, hparent] at hx
  rcases hx with ⟨-, h⟩ | ⟨h, -⟩ | ⟨-, h⟩
  · cases Registry.isKnown_of_contains h
  · cases h
  · apply not_isClient hno h

/-- Without a log, too, the graph tells of the direct dependencies reported since the last reset. -/
theorem tellsOf_run (traceStatements : Bool) (hooks : Hooks) (store : Store) (steps : List Step) :
  let start : Session := { new { mode := .suggest, traceStatements } with hooks, store }
  let s := (start.run steps).1
  s.suggests ∧ s.registry.Placed
    ∧ s.graph.TellsOf (directPairs (steps.foldl noteReport []))
  := by
  intro start s
  let keeping := assistant traceStatements hooks #[]
  have hstart : start.registry.Placed := Registry.placed_empty
  have hkeeping : keeping.registry.Placed := Registry.placed_empty
  have h := (follows_assistant traceStatements hooks #[]).run steps
  have hsince : keeping.recordsAfter 0 steps = steps.foldl noteReport [] :=
    sinceReset_eq ⟨#[], rfl⟩ hkeeping steps
  -- The session differs in its log only from one that keeps the log.
  have hlog : s.unlogged = (keeping.run steps).1.unlogged := by
    apply (congrArg Prod.fst (unlogged_run hstart steps)).symm.trans
    apply congrArg Prod.fst (unlogged_run hkeeping steps)
  have hgoal : s.unlogged.suggests ∧ s.unlogged.registry.Placed
      ∧ s.unlogged.graph.TellsOf (directPairs (steps.foldl noteReport [])) := by
    rw [hlog, ← hsince]
    apply h
  apply hgoal

/-- In every reachable state in suggest mode a change of a file, whatever its number, returns in
order the module it belongs to, if that is loaded, the clients of that module, if it is a file at
all, and the clients of the file, if it does not belong to itself. What is returned is dirty
afterwards, besides what was dirty before, and nothing but markers is changed. A change of a file
that is not loaded, has no owner and that nothing depends on leaves all markers alone. -/
theorem run_invalidate_touches (traceStatements : Bool) (hooks : Hooks) (store : Store)
    (steps : List Step) (file : FileId) :
  let start : Session := { new { mode := .suggest, traceStatements } with hooks, store }
  let s := (start.run steps).1
  let pairs := directPairs (steps.foldl noteReport [])
  let owner := s.parent file
  ∃ ids s', s.step (.invalidate file) = (s', .files ids) ∧ s.Marks ids s' ∧ Ascending ids
    ∧ (∀ m, m ∈ ids
        ↔ m = owner ∧ s.registry.contains owner
          ∨ owner.isKnown ∧ s.IsClient pairs m owner
          ∨ file ≠ owner ∧ s.IsClient pairs m file)
    ∧ (∀ m ∈ ids, (s'.step (.isDirty m)).2 = .flag true)
    ∧ (∃ before after, (s.step .dirtyModules).2 = .files before
        ∧ (s'.step .dirtyModules).2 = .files after ∧ Ascending after
        ∧ ∀ m, m ∈ after ↔ m ∈ before ∨ m ∈ ids)
    ∧ (¬ s.registry.contains file → s.ownership.owner file = none →
        (∀ m, (m, file) ∉ pairs) → ids = [] ∧ s'.registry = s.registry)
  := by
  intro start s pairs owner
  obtain ⟨hmode, hs, hg⟩ := tellsOf_run traceStatements hooks store steps
  have hmarks : s.Marks (s.invalidate file).1 (s.invalidate file).2 := marks_invalidate hs file
  have hplaced := hmarks.placed hs
  have hafter (m : FileId) : m ∈ (s.invalidate file).2.dirtyModules
      ↔ m ∈ s.dirtyModules ∨ m ∈ (s.invalidate file).1 := by
    rw [hmarks.mem_dirtyModules hs, and_iff_right hmode]
  use (s.invalidate file).1, (s.invalidate file).2, rfl
  use hmarks, invalidate_ascending
  constructor
  · intro m
    apply mem_invalidate_iff hmode hs hg
  constructor
  · intro m hm
    have hdirty : (s.invalidate file).2.isDirty m = true :=
      (isDirty_iff hplaced).mpr ((hafter m).mpr (Or.inr hm))
    rw [step, hdirty]
  constructor
  · use s.dirtyModules, (s.invalidate file).2.dirtyModules, rfl, rfl
    use dirtyModules_ascending hplaced, hafter
  · intro hload howner hno
    have hnil := invalidate_eq_nil hmode hs hg hload howner hno
    use hnil
    rw [hmarks.registry, hnil]
    apply Registry.map_id

end Session

end Recompile
