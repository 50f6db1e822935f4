import Recompile.Proofs.FileTable
import Recompile.Proofs.Session.Series

/-!
# Starting over

What a session answers never depends on what it has reported to its log: leaving the log out
(`Session.unlogged`) commutes with every step. A reset leaves the settings, the files, the hooks
and the log, so a session that was reset goes on like a new one with the same files, settings and
hooks, and adds to the log what the new one would log.
-/

namespace Recompile

namespace Store

/-- A new store of the same kind. -/
def anew : Store → Store
  | .discarding => .discarding
  | .keeping _ => .keeping #[]

theorem records_foldl_discarding (records : List EdgeRecord) :
  (records.foldl record .discarding).records = []
  := by
  induction records with
  | nil => rfl
  | cons r records ih => apply ih

/-- A log that is kept grows by what is reported. -/
theorem records_foldl_keeping (log : Array EdgeRecord) (records : List EdgeRecord) :
  (records.foldl record (.keeping log)).records = log.toList ++ records
  := by
  induction records generalizing log with
  | nil =>
      rw [List.append_nil]
      rfl
  | cons r records ih =>
      apply (ih (log.push r)).trans
      rw [Array.toList_push, List.append_assoc]
      rfl

/-- What is reported later comes after what is reported first. -/
theorem records_foldl_append (store : Store) (records records' : List EdgeRecord) :
  ((records ++ records').foldl record store).records
    = (records.foldl record store).records ++ (records'.foldl record store.anew).records
  := by
  cases store with
  | discarding =>
      rw [anew]
      simp only [records_foldl_discarding, List.append_nil]
  | keeping log =>
      rw [anew]
      simp only [records_foldl_keeping, List.append_assoc, List.nil_append]

end Store

namespace Session

variable {s : Session} {id : FileId} {p : Path}

/-! ### Sessions without a log -/

/-- The session that keeps no log. -/
def unlogged (s : Session) : Session := { s with store := .discarding }

theorem unlogged_intern (s : Session) (p : Path) :
  s.unlogged.intern p = ((s.intern p).1.unlogged, (s.intern p).2)
  := by
  simp only [intern, unlogged]
  split <;> rfl

theorem unlogged_register (s : Session) (m : CompiledModule) :
  s.unlogged.register m = ((s.register m).1.unlogged, (s.register m).2)
  := by
  simp only [register, unlogged]
  split <;> rfl

theorem unlogged_registerLoaded (s : Session) (importer file : FileId) :
  s.unlogged.registerLoaded importer file
    = ((s.registerLoaded importer file).1.unlogged, (s.registerLoaded importer file).2)
  := by
  have hhooks : s.unlogged.hooks = s.hooks := rfl
  rw [registerLoaded, registerLoaded, hhooks]
  split
  · rfl
  · rfl
  · rw [unlogged_register]

/-- Without a log a dependency is added as it is with one. The log is only written to. -/
theorem unlogged_addDep (s : Session) (m : CompiledModule) (dependency : FileId) :
  s.unlogged.addDep m dependency
    = ((s.addDep m dependency).1.unlogged, (s.addDep m dependency).2)
  := by
  apply Prod.ext
  · rw [fst_addDep, fst_addDep]
    by_cases h : m.id = m.origin ∧ dependency.isKnown
    · rw [if_pos h, if_pos h]
      rfl
    · rw [if_neg h, if_neg h]
  · rw [snd_addDep, snd_addDep]
    rfl

/-- Nor does a change of a file read the log. -/
theorem unlogged_invalidate (hs : s.registry.Placed) (file : FileId) :
  s.unlogged.invalidate file = ((s.invalidate file).1, (s.invalidate file).2.unlogged)
  := by
  -- Unfolding both changes is out of reach: they are compared by what they touch.
  have hs' : s.unlogged.registry.Placed := hs
  have hfst : (s.unlogged.invalidate file).1 = (s.invalidate file).1 :=
    fst_invalidate_congr hs hs' rfl (fun _ => rfl) rfl rfl
  apply Prod.ext
  · apply hfst
  · rw [snd_invalidate hs', snd_invalidate hs, hfst]
    rfl

/-- Leaving the log out before a step or after it is the same. -/
theorem unlogged_step (hs : s.registry.Placed) (i : Step) :
  s.unlogged.step i = ((s.step i).1.unlogged, (s.step i).2)
  := by
  have hhooks : s.unlogged.hooks = s.hooks := rfl
  have hinterner : s.unlogged.interner = s.interner := rfl
  cases i with
  | intern p =>
      rw [step, step, unlogged_intern]
      rcases s.intern p with ⟨s', cause | id⟩ <;> rfl
  | fileId p =>
      rw [step, step, hinterner]
      split <;> rfl
  | register m =>
      rw [step, step, unlogged_register]
      rcases s.register m with ⟨s', cause | old⟩ <;> rfl
  | registerLoaded importer file =>
      rw [step, step, unlogged_registerLoaded]
      rcases s.registerLoaded importer file with ⟨s', cause | old | old⟩ <;> rfl
  | addDep m dependency =>
      rw [step, step, unlogged_addDep]
      rcases s.addDep m dependency with ⟨s', cause | added⟩ <;> rfl
  | loadModule importer file =>
      rw [step, step, hhooks]
      split <;> rfl
  | loadInclude includer file =>
      rw [step, step, hhooks]
      split <;> rfl
  | invalidate file => rw [step, step, unlogged_invalidate hs]
  | statement module text =>
      have hconfig : s.unlogged.config = s.config := rfl
      rw [step, step, recordStatement, recordStatement, hconfig]
      split_ifs <;> rfl
  | _ => rfl

/-- A session without a log answers as one with it, step by step. -/
theorem unlogged_run (hs : s.registry.Placed) (steps : List Step) :
  s.unlogged.run steps = ((s.run steps).1.unlogged, (s.run steps).2)
  := by
  induction steps generalizing s with
  | nil => rfl
  | cons i is ih =>
      rw [run, run, runSteps_cons, runSteps_cons, unlogged_step hs]
      have ih' := ih (placed_step hs i)
      rw [run, run] at ih'
      rw [ih']

/-! ### The files and the log -/

theorem path_intern (h : s.interner.path id = some p) (q : Path) :
  (s.intern q).1.interner.path id = some p
  := by
  rw [intern]
  split
  · next hintern => apply Interner.path_of_intern hintern h
  · apply h

/-- No step takes a number away from its path. -/
theorem path_step (hs : s.registry.Placed) (h : s.interner.path id = some p) (i : Step) :
  (s.step i).1.interner.path id = some p
  := by
  cases i with
  | intern q =>
      rw [fst_step_intern]
      apply path_intern h
  | fileId q =>
      rw [fst_step_fileId]
      apply h
  | register m =>
      obtain ⟨registry, hs'⟩ := register_eq s m
      rw [fst_step_register, hs']
      apply h
  | registerLoaded importer file =>
      obtain ⟨registry, hs'⟩ := registerLoaded_eq s importer file
      rw [fst_step_registerLoaded, hs']
      apply h
  | addDep m dependency =>
      rw [fst_step_addDep, fst_addDep]
      split_ifs <;> apply h
  | loadModule importer file =>
      rw [fst_step_loadModule]
      apply h
  | loadInclude importer file =>
      rw [fst_step_loadInclude]
      apply h
  | invalidate file =>
      rw [fst_step_invalidate, (marks_invalidate hs file).rest]
      apply h
  | statement module text =>
      rw [step, recordStatement]
      split_ifs <;> apply h
  | _ => apply h

/-- No history takes a number away from its path. -/
theorem path_run (hs : s.registry.Placed) (h : s.interner.path id = some p) (steps : List Step) :
  (s.run steps).1.interner.path id = some p
  := by
  have hrun : (s.run steps).1.registry.Placed ∧ (s.run steps).1.interner.path id = some p := by
    apply runSteps_induction
      (P := fun t : Session => t.registry.Placed ∧ t.interner.path id = some p)
    · rintro t i ⟨ht, h⟩
      use placed_step ht i, path_step ht h i
    · use hs, h
  apply hrun.2

/-- A history hands what its steps report to the store, in order. -/
theorem store_run (hs : s.registry.Placed) (steps : List Step) :
  (s.run steps).1.store = (steps.filterMap Step.report).foldl Store.record s.store
  := by
  induction steps generalizing s with
  | nil => rfl
  | cons i is ih =>
      apply (ih (placed_step hs i)).trans
      rw [store_step hs]
      cases h : i.report with
      | none =>
          rw [List.filterMap_cons_none h]
          rfl
      | some r =>
          rw [List.filterMap_cons_some h]
          rfl

/-- From any reachable state a reset leads on as from a new session with the same settings, hooks
and files: the same steps get the same answers and lead to sessions that differ in their logs
only. Numbers given before stay with their paths, and the log goes on with what the new session
would log. -/
theorem run_after_reset_as_new (config : Config) (hooks : Hooks) (store : Store)
    (history steps : List Step) :
  let start : Session := { new config with hooks, store }
  let s := (start.run history).1
  let fresh : Session :=
    { new config with interner := s.interner, hooks := s.hooks, store := store.anew }
  (s.reset.run steps).2 = (fresh.run steps).2
    ∧ (s.reset.run steps).1.unlogged = (fresh.run steps).1.unlogged
    ∧ (∀ id p, s.interner.path id = some p → (s.reset.run steps).1.interner.path id = some p)
    ∧ (s.reset.run steps).1.store.records
      = s.store.records ++ (fresh.run steps).1.store.records
  := by
  intro start s fresh
  have hstart : start.registry.Placed := Registry.placed_empty
  obtain ⟨-, hconfig, -⟩ : start.Settled s := settled_run hstart history
  have hs : s.reset.registry.Placed := Registry.placed_empty
  have hfresh : fresh.registry.Placed := Registry.placed_empty
  have hreset : s.reset.unlogged = fresh.unlogged := by
    rw [reset, hconfig]
    rfl
  have hrun : ((s.reset.run steps).1.unlogged, (s.reset.run steps).2)
      = ((fresh.run steps).1.unlogged, (fresh.run steps).2) := by
    rw [← unlogged_run hs, ← unlogged_run hfresh, hreset]
  obtain ⟨hstates, hanswers⟩ := Prod.mk.inj hrun
  use hanswers, hstates
  constructor
  · intro id p h
    apply path_run hs h
  · have hstore : s.reset.store = (history.filterMap Step.report).foldl Store.record store :=
      store_run hstart history
    have hstore' : s.store = s.reset.store := rfl
    rw [store_run hs, store_run hfresh, hstore', hstore, ← List.foldl_append]
    apply Store.records_foldl_append

end Session

end Recompile
