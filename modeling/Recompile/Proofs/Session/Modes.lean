import Recompile.Proofs.Session.Steps

/-!
# The two modes

A session in suggest mode and one in batch mode that take the same steps differ in nothing but the
graph, the markers and the mode itself. Leaving these out (`Session.asBatch`) commutes with every
step. In batch mode the graph stays empty, and no module is ever found dirty.
-/

namespace Recompile

namespace Registry

variable {r : Registry}

/-- The registry with all markers cleared. -/
def unmarked (r : Registry) : Registry := r.map fun m => m.mark false

/-- Clearing markers loads and unloads no module. -/
theorem contains_unmarked (id : FileId) :
  r.unmarked.contains id = r.contains id
  := by
  rw [contains, unmarked, get_map, Option.isSome_map]
  rfl

/-- A change that is to markers only is not seen once they are cleared. -/
theorem unmarked_map {f : CompiledModule → CompiledModule}
    (hf : ∀ m, (f m).mark false = m.mark false) :
  (r.map f).unmarked = r.unmarked
  := by
  rw [unmarked, map_map, unmarked]
  congr 1
  funext m
  apply hf

theorem unmarked_unmarked :
  r.unmarked.unmarked = r.unmarked
  := by
  apply unmarked_map
  intro m
  rfl

/-- Clearing markers leaves each module in its slot. -/
theorem Placed.unmarked (hr : r.Placed) :
  r.unmarked.Placed
  := by
  apply hr.map
  intro m
  rfl

/-- Up to markers, it is the same whether a module is put into its slot marked or not. -/
theorem unmarked_withModule (m : CompiledModule) :
  (r.withModule m).unmarked = r.unmarked.withModule (m.mark false)
  := by
  simp [unmarked, Registry.map, withModule, grow, CompiledModule.mark, FileId.place]

/-- Setting or clearing a marker is not seen once all of them are cleared. -/
theorem Placed.unmarked_modify_mark (hr : r.Placed) (id : FileId) (dirty : Bool) :
  (r.modify id fun m => m.mark dirty).unmarked = r.unmarked
  := by
  rw [hr.modify_eq_map]
  apply unmarked_map
  intro m
  split_ifs <;> rfl

end Registry

namespace Session

variable {s s' : Session} {ids : List FileId}

/-- The session without its graph and markers, in batch mode. -/
def asBatch (s : Session) : Session :=
  { s with
    config := { s.config with mode := .batch }
    registry := s.registry.unmarked
    graph := .empty }

/-- Leaving out graph and markers twice leaves out no more. -/
theorem asBatch_asBatch :
  s.asBatch.asBatch = s.asBatch
  := by
  rw [asBatch, asBatch, Registry.unmarked_unmarked]

/-- The parent of a file does not depend on what is left out. -/
theorem parent_asBatch (id : FileId) :
  s.asBatch.parent id = s.parent id
  := by
  rw [parent, parent, asBatch, Registry.contains_unmarked]

/-! ### Steps -/

theorem asBatch_register (s : Session) (m : CompiledModule) :
  (s.register m).1.asBatch = (s.asBatch.register m).1.asBatch
  := by
  by_cases h : m.id.isKnown
  · rw [register_eq_ok h, register_eq_ok h]
    simp only [asBatch, Registry.unmarked_withModule, Registry.unmarked_unmarked]
  · rw [register_eq_error h, register_eq_error h, asBatch_asBatch]

/-- What is left of taking in a compiled file is told by what was left before. -/
theorem asBatch_registerLoaded (s : Session) (importer file : FileId) :
  (s.registerLoaded importer file).1.asBatch = (s.asBatch.registerLoaded importer file).1.asBatch
  := by
  have hhooks : s.asBatch.hooks = s.hooks := rfl
  rw [fst_registerLoaded, fst_registerLoaded, hhooks]
  split
  · apply asBatch_register
  · rw [asBatch_asBatch]

/-- What is left of reporting a dependency is told by what was left before. The edge is made in
suggest mode only, but the graph is left out. -/
theorem asBatch_addDep (s : Session) (m : CompiledModule) (dependency : FileId) :
  (s.addDep m dependency).1.asBatch = (s.asBatch.addDep m dependency).1.asBatch
  := by
  rw [fst_addDep, fst_addDep]
  by_cases h : m.id = m.origin ∧ dependency.isKnown
  · rw [if_pos h, if_pos h]
    simp only [asBatch, Registry.unmarked_unmarked]
  · rw [if_neg h, if_neg h, asBatch_asBatch]

theorem asBatch_modify_mark (hs : s.registry.Placed) (id : FileId) (dirty : Bool) :
  asBatch { s with registry := s.registry.modify id fun m => m.mark dirty } = s.asBatch
  := by
  rw [asBatch, asBatch, hs.unmarked_modify_mark]

/-- Marking modules is not seen in batch mode. -/
theorem Marks.asBatch_eq (h : s.Marks ids s') :
  s'.asBatch = s.asBatch
  := by
  have hregistry : s'.registry.unmarked = s.registry.unmarked := by
    rw [h.registry]
    apply Registry.unmarked_map
    intro m
    rw [CompiledModule.markIn]
    split_ifs <;> rfl
  rw [h.rest, asBatch, asBatch, hregistry]

/-- What is left of a step in batch mode is told by what was left of the session before. -/
theorem asBatch_step (hs : s.registry.Placed) (i : Step) :
  (s.step i).1.asBatch = (s.asBatch.step i).1.asBatch
  := by
  have hs' : s.asBatch.registry.Placed := hs.unmarked
  cases i with
  | intern p =>
      have hinterner : s.asBatch.interner = s.interner := rfl
      rw [fst_step_intern, fst_step_intern, intern, intern, hinterner]
      split <;> apply asBatch_asBatch.symm
  | fileId p => rw [fst_step_fileId, fst_step_fileId, asBatch_asBatch]
  | register m => rw [fst_step_register, fst_step_register, asBatch_register]
  | registerLoaded importer file =>
      rw [fst_step_registerLoaded, fst_step_registerLoaded, asBatch_registerLoaded]
  | addDep m dependency => rw [fst_step_addDep, fst_step_addDep, asBatch_addDep]
  | markDirty id =>
      apply (asBatch_modify_mark hs id true).trans
      apply asBatch_asBatch.symm.trans
      apply (asBatch_modify_mark hs' id true).symm
  | clearDirty id =>
      apply (asBatch_modify_mark hs id false).trans
      apply asBatch_asBatch.symm.trans
      apply (asBatch_modify_mark hs' id false).symm
  | markClients id =>
      apply (marks_markClients hs id).asBatch_eq.trans
      apply asBatch_asBatch.symm.trans
      apply (marks_markClients hs' id).asBatch_eq.symm
  | invalidate id =>
      apply (marks_invalidate hs id).asBatch_eq.trans
      apply asBatch_asBatch.symm.trans
      apply (marks_invalidate hs' id).asBatch_eq.symm
  | loadModule importer file => rw [fst_step_loadModule, fst_step_loadModule, asBatch_asBatch]
  | loadInclude includer file =>
      rw [fst_step_loadInclude, fst_step_loadInclude, asBatch_asBatch]
  | statement module text =>
      have htrace : s.asBatch.config.traceStatements = s.config.traceStatements := rfl
      rw [step, step, recordStatement, recordStatement, htrace]
      split_ifs <;> apply asBatch_asBatch.symm
  | reset => rfl
  | _ => apply asBatch_asBatch.symm

/-- Two sessions that are the same but for graph, markers and mode. -/
structure SameInBatch (s t : Session) : Prop where
  placed : s.registry.Placed
  placed' : t.registry.Placed
  same : s.asBatch = t.asBatch

/-- Sessions that are the same but for graph, markers and mode are so after a step. -/
theorem SameInBatch.step {t : Session} (h : s.SameInBatch t) (i : Step) :
  (s.step i).1.SameInBatch (t.step i).1
  where
  placed := placed_step h.placed i
  placed' := placed_step h.placed' i
  same := by rw [asBatch_step h.placed, asBatch_step h.placed', h.same]

theorem SameInBatch.run {t : Session} (h : s.SameInBatch t) (steps : List Step) :
  (s.run steps).1.SameInBatch (t.run steps).1
  := runSteps_rel (fun _ _ i h => h.step i) h steps

/-! ### Batch mode -/

/-- A session in batch mode, without edges. -/
structure Idle (s : Session) : Prop where
  placed : s.registry.Placed
  suggests : s.suggests = false
  graph : s.graph = .empty

/-- No step gives a session in batch mode an edge, or another mode. -/
theorem Idle.step (h : s.Idle) (i : Step) :
  (s.step i).1.Idle
  where
  placed := placed_step h.placed i
  suggests := by
    rw [Session.suggests, (settings_step h.placed i).1]
    apply h.suggests
  graph := by
    rcases graph_step_cases h.placed i with ⟨m, dependency, rfl⟩ | rfl | hg | hg
    · rw [fst_step_addDep, fst_addDep]
      simp only [h.suggests, Bool.false_eq_true, if_false]
      split_ifs <;> apply h.graph
    · rfl
    · rw [hg, h.graph]
    · rw [hg, h.graph]
      rfl

theorem Idle.run (h : s.Idle) (steps : List Step) :
  (s.run steps).1.Idle
  := runSteps_induction (fun _ i h => h.step i) h steps

/-- Without edges there are no clients to mark, and closing changes nothing. -/
theorem Idle.markClients_eq (h : s.Idle) (id : FileId) :
  s.markClients id = ([], s)
  := by
  have hclose : s.close = s := by
    have hclosed : s.graph.closed = s.graph := by
      rw [h.graph]
      rfl
    rw [close, hclosed]
  have hcontains (a : FileId) : s.graph.contains a id = false := by
    rw [h.graph, Bool.eq_false_iff]
    intro hedge
    apply Std.TreeSet.not_mem_emptyc (DependencyGraph.contains_iff.mp hedge).2
  simp [markClients, hclose, clients, hcontains, Registry.map_id]

/-- In batch mode a change of a file touches nothing. -/
theorem Idle.invalidate_eq (h : s.Idle) (file : FileId) :
  s.invalidate file = ([], s)
  := by
  rw [invalidate, h.suggests]
  rfl

/-- In batch mode no module is dirty, whatever its marker says. -/
theorem Idle.dirtyModules_eq (h : s.Idle) :
  s.dirtyModules = []
  := by
  rw [dirtyModules, h.suggests]
  rfl

/-- Two new sessions that differ in their modes only, and take the same steps, keep the same log,
files, owners, stacks, cache and symbols, and the same modules up to their markers. In batch mode
there is never an edge or a module to recompile, and asking for either changes nothing. -/
theorem run_same_in_both_modes (traceStatements : Bool) (hooks : Hooks) (store : Store)
    (steps : List Step) :
  let start (mode : Mode) : Session := { new { mode, traceStatements } with hooks, store }
  let s := ((start .suggest).run steps).1
  let b := ((start .batch).run steps).1
  (s.store = b.store ∧ s.interner = b.interner ∧ (∀ id, s.parent id = b.parent id)
      ∧ s.imports = b.imports ∧ s.owners = b.owners ∧ s.cache = b.cache ∧ s.symbols = b.symbols
      ∧ s.registry.unmarked = b.registry.unmarked)
    ∧ b.graph.edges = [] ∧ b.graph.isClosed
    ∧ (∀ id, b.step (.markClients id) = (b, .files []))
    ∧ (∀ id, b.step (.invalidate id) = (b, .files []))
    ∧ b.step .dirtyModules = (b, .files [])
  := by
  intro start s b
  have hplaced (mode : Mode) : (start mode).registry.Placed := Registry.placed_empty
  have hrun : s.SameInBatch b := SameInBatch.run ⟨hplaced .suggest, hplaced .batch, rfl⟩ steps
  have hidle : b.Idle := Idle.run ⟨hplaced .batch, rfl, rfl⟩ steps
  constructor
  · have same {α : Type} (table : Session → α) : table s.asBatch = table b.asBatch := by
      rw [hrun.same]
    use same Session.store, same interner
    constructor
    · intro id
      rw [← parent_asBatch, hrun.same, parent_asBatch]
    · exact ⟨same imports, same owners, same cache, same symbols, same registry⟩
  constructor
  · rw [hidle.graph]
    rfl
  constructor
  · rw [hidle.graph]
    rfl
  constructor
  · intro id
    rw [step, hidle.markClients_eq]
  constructor
  · intro id
    rw [step, hidle.invalidate_eq]
  · rw [step, hidle.dirtyModules_eq]

end Session

end Recompile
