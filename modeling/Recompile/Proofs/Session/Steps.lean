import Recompile.Session.Step
import Recompile.Proofs.Session.Marking

/-!
# Steps of a session

What a step may do to the settings, the log, the loaders and the registry of a session. The
settings and the loaders are never changed, the log only grows by what a step reports, and
modules stay in the slots of their own numbers.
-/

namespace Recompile

namespace Session

variable {s s' : Session} {ids : List FileId}

/-! ### The session a step leaves behind -/

@[simp]
theorem fst_step_intern (s : Session) (p : Path) :
  (s.step (.intern p)).1 = (s.intern p).1
  := by
  rw [step]
  split
  · next h => rw [h]
  · next h => rw [h]

@[simp]
theorem fst_step_fileId (s : Session) (p : Path) :
  (s.step (.fileId p)).1 = s
  := by
  rw [step]
  split <;> rfl

@[simp]
theorem fst_step_register (s : Session) (m : CompiledModule) :
  (s.step (.register m)).1 = (s.register m).1
  := by
  rw [step]
  split
  · next h => rw [h]
  · next h => rw [h]

@[simp]
theorem fst_step_addDep (s : Session) (m : CompiledModule) (dependency : FileId) :
  (s.step (.addDep m dependency)).1 = (s.addDep m dependency).1
  := by
  rw [step]
  split
  · next h => rw [h]
  · next h => rw [h]

@[simp]
theorem fst_step_loadModule (s : Session) (importer file : FileId) :
  (s.step (.loadModule importer file)).1 = s
  := by
  rw [step]
  split <;> rfl

@[simp]
theorem fst_step_loadInclude (s : Session) (includer file : FileId) :
  (s.step (.loadInclude includer file)).1 = s
  := by
  rw [step]
  split <;> rfl

@[simp]
theorem fst_step_registerLoaded (s : Session) (importer file : FileId) :
  (s.step (.registerLoaded importer file)).1 = (s.registerLoaded importer file).1
  := by
  rw [step]
  split
  · next h => rw [h]
  · next h => rw [h]
  · next h => rw [h]

/-! ### Single operations -/

/-- Numbering a path changes the table of files only. -/
theorem intern_eq (s : Session) (p : Path) :
  ∃ interner, (s.intern p).1 = { s with interner }
  := by
  rw [intern]
  split
  · next id interner h => use interner
  · use s.interner

/-- A module with a number is put into its slot, and what was there is handed back. -/
theorem register_eq_ok {m : CompiledModule} (h : m.id.isKnown) :
  s.register m = ({ s with registry := s.registry.withModule m }, .ok (s.registry.get m.id))
  := by
  rw [register, Registry.register_eq_ok h]

/-- A module without a number is refused, and the session stays as it is. -/
theorem register_eq_error {m : CompiledModule} (h : ¬ m.id.isKnown) :
  s.register m = (s, .error (.noSlot m.name m.id))
  := by
  rw [register, Registry.register_eq_error h]

/-- Registering changes the registry only. -/
theorem register_eq (s : Session) (m : CompiledModule) :
  ∃ registry, (s.register m).1 = { s with registry }
  := by
  by_cases h : m.id.isKnown
  · use s.registry.withModule m
    rw [register_eq_ok h]
  · use s.registry
    rw [register_eq_error h]

/-- Registering a loaded module is registering what the loader found. -/
theorem fst_registerLoaded (s : Session) (importer file : FileId) :
  (s.registerLoaded importer file).1
    = match s.hooks.loadModule importer file with
      | .ok (some m) => (s.register m).1
      | _ => s
  := by
  rw [registerLoaded]
  split <;> simp_all

/-- Registering what a loader finds changes nothing but the registry. -/
theorem registerLoaded_eq (s : Session) (importer file : FileId) :
  ∃ registry, (s.registerLoaded importer file).1 = { s with registry }
  := by
  rw [fst_registerLoaded]
  split
  · apply register_eq
  · use s.registry

/-- A dependency is accepted by the log if the module is in its own slot and the dependency is
known, and goes from there to the graph in suggest mode. -/
theorem fst_addDep (s : Session) (m : CompiledModule) (dependency : FileId) :
  (s.addDep m dependency).1
    = if m.id = m.origin ∧ dependency.isKnown then
        { s with
          store := s.store.record ⟨m.id, dependency, .direct⟩
          graph := if s.suggests then (s.graph.step (.insert m.id dependency)).1 else s.graph }
      else s
  := by
  by_cases h : m.id = m.origin ∧ dependency.isKnown
  · have hd : ¬ (!dependency.isKnown) = true := by simp [h.2]
    rw [if_pos h, addDep, if_neg (not_not_intro h.1), if_neg hd]
    cases hmode : s.suggests with
    | false =>
        have hmode' (store : Store) : suggests { s with store } = false := hmode
        simp [hmode']
    | true =>
        have hmode' (store : Store) : suggests { s with store } = true := hmode
        simp only [hmode', if_true, DependencyGraph.step]
        cases s.graph.insert m.id dependency with
        | ok r => rfl
        | error cause => rfl
  · rw [if_neg h, addDep]
    split_ifs with hm hd
    · rfl
    · rfl
    · simp_all

/-- What adding a dependency answers. -/
theorem snd_addDep (s : Session) (m : CompiledModule) (dependency : FileId) :
  (s.addDep m dependency).2
    = if m.id ≠ m.origin then .error (.wrongOrigin m.name m.id m.origin)
      else if !dependency.isKnown then .error (.unknownDependency m.name)
      else if s.suggests then (s.graph.insert m.id dependency).map fun _ => ()
      else .ok ()
  := by
  rw [addDep]
  cases hmode : s.suggests with
  | false =>
      have hmode' (store : Store) : suggests { s with store } = false := hmode
      simp only [hmode', Bool.false_eq_true, if_false]
      split_ifs <;> rfl
  | true =>
      have hmode' (store : Store) : suggests { s with store } = true := hmode
      simp only [hmode', if_true]
      split_ifs
      · rfl
      · rfl
      · cases s.graph.insert m.id dependency with
        | ok r => rfl
        | error cause => rfl

theorem fst_step_invalidate (s : Session) (id : FileId) :
  (s.step (.invalidate id)).1 = (s.invalidate id).2
  := rfl

/-! ### Steps aside -/

/-- Whether a step has nothing to do with modules, owners, dependencies and the log. -/
def Step.isAside : Step → Bool
  | .register _ | .registerLoaded _ _ | .addDep _ _ | .addInclude _ _ | .close
  | .dependentsOf _ | .dependenciesOf _ | .markDirty _ | .markClients _ | .clearDirty _
  | .invalidate _ | .reset => false
  | _ => true

/-- Settings, modules, owners, dependencies, the log and the loaders are kept. -/
structure Keeps (s s' : Session) : Prop where
  config : s'.config = s.config
  registry : s'.registry = s.registry
  ownership : s'.ownership = s.ownership
  graph : s'.graph = s.graph
  store : s'.store = s.store
  loadModule : s'.hooks.loadModule = s.hooks.loadModule

theorem keeps_refl (s : Session) :
  Keeps s s
  := ⟨rfl, rfl, rfl, rfl, rfl, rfl⟩

/-- A step aside keeps settings, modules, owners, dependencies, the log and the loaders. -/
theorem keeps_step (s : Session) (i : Step) (hi : i.isAside) :
  Keeps s (s.step i).1
  := by
  cases i with
  | intern p =>
      obtain ⟨interner, h⟩ := intern_eq s p
      rw [fst_step_intern, h]
      exact ⟨rfl, rfl, rfl, rfl, rfl, rfl⟩
  | fileId p =>
      rw [fst_step_fileId]
      apply keeps_refl
  | loadModule importer file =>
      rw [fst_step_loadModule]
      apply keeps_refl
  | loadInclude includer file =>
      rw [fst_step_loadInclude]
      apply keeps_refl
  | statement module text =>
      rw [step, recordStatement]
      split_ifs <;> exact ⟨rfl, rfl, rfl, rfl, rfl, rfl⟩
  | register | registerLoaded | addDep | addInclude | close | dependentsOf | dependenciesOf
  | markDirty | markClients | clearDirty | invalidate | reset => cases hi
  | _ => exact ⟨rfl, rfl, rfl, rfl, rfl, rfl⟩

/-! ### What a step does to each table -/

/-- No step changes the settings or the loaders. -/
theorem settings_step (hs : s.registry.Placed) (i : Step) :
  (s.step i).1.config = s.config ∧ (s.step i).1.hooks.loadModule = s.hooks.loadModule
  := by
  have aside := keeps_step s i
  cases i with
  | register m =>
      obtain ⟨registry, h⟩ := register_eq s m
      simp [h]
  | registerLoaded importer file =>
      obtain ⟨registry, h⟩ := registerLoaded_eq s importer file
      simp [h]
  | addDep m dependency =>
      rw [fst_step_addDep, fst_addDep]
      split_ifs <;> trivial
  | invalidate id =>
      rw [fst_step_invalidate, (marks_invalidate hs id).rest]
      trivial
  | addInclude | close | dependentsOf | dependenciesOf | markDirty | markClients | clearDirty
  | reset => trivial
  | _ =>
      constructor
      · apply (aside rfl).config
      · apply (aside rfl).loadModule

/-- The dependency a step reports to the log, if it reports one. -/
def Step.report : Step → Option EdgeRecord
  | .addDep m dependency =>
    if m.id = m.origin ∧ dependency.isKnown then some ⟨m.id, dependency, .direct⟩ else none
  | .addInclude module file => some ⟨module, file, .inclusion⟩
  | _ => none

/-- The log grows by what a step reports. -/
theorem store_step (hs : s.registry.Placed) (i : Step) :
  (s.step i).1.store = i.report.elim s.store s.store.record
  := by
  have aside := keeps_step s i
  cases i with
  | register m =>
      obtain ⟨registry, h⟩ := register_eq s m
      rw [fst_step_register, h]
      rfl
  | registerLoaded importer file =>
      obtain ⟨registry, h⟩ := registerLoaded_eq s importer file
      rw [fst_step_registerLoaded, h]
      rfl
  | addDep m dependency =>
      rw [fst_step_addDep, fst_addDep, Step.report]
      split_ifs <;> rfl
  | invalidate id =>
      rw [fst_step_invalidate, (marks_invalidate hs id).rest]
      rfl
  | addInclude | close | dependentsOf | dependenciesOf | markDirty | markClients | clearDirty
  | reset => rfl
  | _ => apply (aside rfl).store

/-- A module that is registered is in the slot of its own number. -/
theorem placed_register (hs : s.registry.Placed) (m : CompiledModule) :
  (s.register m).1.registry.Placed
  := by
  by_cases h : m.id.isKnown
  · rw [register_eq_ok h]
    apply hs.withModule h
  · rw [register_eq_error h]
    apply hs

/-- Every step leaves each module in the slot of its own number. -/
theorem placed_step (hs : s.registry.Placed) (i : Step) :
  (s.step i).1.registry.Placed
  := by
  have aside := keeps_step s i
  cases i with
  | register m =>
      rw [fst_step_register]
      apply placed_register hs
  | registerLoaded importer file =>
      rw [fst_step_registerLoaded, fst_registerLoaded]
      split
      · apply placed_register hs
      · apply hs
  | addDep m dependency =>
      rw [fst_step_addDep, fst_addDep]
      split_ifs <;> apply hs
  | addInclude | close | dependentsOf | dependenciesOf => apply hs
  | markDirty id => apply (marks_markDirty hs id).placed hs
  | markClients id => apply (marks_markClients hs id).placed hs
  | clearDirty id =>
      apply Registry.Placed.modify hs
      intro m
      rfl
  | invalidate id => apply (marks_invalidate hs id).placed hs
  | reset => apply Registry.placed_empty
  | _ =>
      rw [(aside rfl).registry]
      apply hs

/-- Only new dependencies and a reset do more to the graph than closing it. -/
theorem graph_step_cases (hs : s.registry.Placed) (i : Step) :
  (∃ m dependency, i = .addDep m dependency) ∨ i = .reset
    ∨ (s.step i).1.graph = s.graph ∨ (s.step i).1.graph = s.graph.closed
  := by
  have aside := keeps_step s i
  cases i with
  | addDep m dependency =>
      left
      use m, dependency
  | reset =>
      right
      left
      rfl
  | register m =>
      obtain ⟨registry, h⟩ := register_eq s m
      rw [fst_step_register, h]
      simp
  | registerLoaded importer file =>
      obtain ⟨registry, h⟩ := registerLoaded_eq s importer file
      rw [fst_step_registerLoaded, h]
      simp
  | invalidate id =>
      right
      right
      apply (marks_invalidate hs id).graph
  | addInclude | markDirty | clearDirty =>
      right
      right
      left
      rfl
  | close | dependentsOf | dependenciesOf | markClients =>
      right
      right
      right
      rfl
  | _ =>
      right
      right
      left
      apply (aside rfl).graph

/-- Settings and loaders are those of `start`, and each module is in the slot of its own
number. -/
structure Settled (start s : Session) : Prop where
  placed : s.registry.Placed
  config : s.config = start.config
  loadModule : s.hooks.loadModule = start.hooks.loadModule

/-- No history changes the settings or the loaders, or moves a module to another slot. -/
theorem settled_run (hs : s.registry.Placed) (steps : List Step) :
  s.Settled (s.run steps).1
  := by
  apply runSteps_induction (P := s.Settled)
  · intro s' i h
    obtain ⟨hconfig, hload⟩ := settings_step h.placed i
    exact {
      placed := placed_step h.placed i
      config := hconfig.trans h.config
      loadModule := hload.trans h.loadModule }
  · exact ⟨hs, rfl, rfl⟩

end Session

end Recompile
