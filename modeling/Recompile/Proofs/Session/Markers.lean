import Recompile.Proofs.Session.Steps

/-!
# The life of a marker

The marker of a loaded module is what the last step that had a say in it made it (`lastOutcome`):
the module came with it, or it was set or cleared by a step that names the module or returns it.
All other steps leave it alone, and nothing but a registration into its slot and a reset changes
what else is known of a module.
-/

namespace Recompile

open FileId (Ascending)

namespace CompiledModule

/-- The module with the marker that a step made of it, if the step had a say in it. -/
def remark (outcome : Option Bool) (m : CompiledModule) : CompiledModule :=
  m.mark (outcome.getD m.dirty)

theorem map_remark_none (slot : Option CompiledModule) :
  slot.map (remark none) = slot
  := Option.map_id'

end CompiledModule

open CompiledModule (markIn remark map_remark_none)

namespace Session

variable {s : Session} {id : FileId}

/-- What loads a module for the file that imports it. -/
abbrev Loader := (importer file : FileId) → Except Fault (Option CompiledModule)

/-- The module a step puts into a slot, if it puts one there. -/
def Step.puts (load : Loader) (id : FileId) : Step → Option CompiledModule
  | .register m => if m.id = id ∧ id.isKnown then some m else none
  | .registerLoaded importer file =>
    match load importer file with
    | .ok (some m) => if m.id = id ∧ id.isKnown then some m else none
    | _ => none
  | _ => none

/-- What a step that was answered makes of the marker in a slot, if it sets or clears it. -/
def Step.sets (id : FileId) : Step → Answer → Option Bool
  | .markDirty x, _ => if x = id then some true else none
  | .clearDirty x, _ => if x = id then some false else none
  | .markClients _, .files ids => if id ∈ ids then some true else none
  | .invalidate _, .files ids => if id ∈ ids then some true else none
  | _, _ => none

/-- What a step that was answered has to say about the marker in a slot, if anything. -/
def Step.outcome (load : Loader) (id : FileId) (i : Step) (a : Answer) : Option Bool :=
  ((i.puts load id).map (·.dirty)).or (i.sets id a)

/-- What the last step that had a say in the marker of a slot made of it. -/
def lastOutcome (load : Loader) (id : FileId) (trace : List (Step × Answer)) : Option Bool :=
  trace.reverse.findSome? fun (i, a) => i.outcome load id a

/-- Later steps have the last say about a marker. -/
theorem lastOutcome_cons (load : Loader) (id : FileId) (i : Step) (a : Answer)
    (trace : List (Step × Answer)) :
  lastOutcome load id ((i, a) :: trace)
    = (lastOutcome load id trace).or (i.outcome load id a)
  := by
  rw [lastOutcome, List.reverse_cons, List.findSome?_append, List.findSome?_singleton]
  rfl

/-! ### What a step does to a slot -/

/-- Registering a module puts it into its slot, with its marker, and leaves all others. -/
theorem get_register (s : Session) (m : CompiledModule) (id : FileId) :
  (s.register m).1.registry.get id
    = ((Step.register m).puts s.hooks.loadModule id).or (s.registry.get id)
  := by
  rw [Step.puts]
  by_cases hm : m.id.isKnown
  · rw [register_eq_ok hm, Registry.get_withModule hm]
    by_cases h : m.id = id
    · subst h
      simp [hm]
    · simp [h, Ne.symm h]
  · rw [register_eq_error hm, if_neg]
    · rfl
    · rintro ⟨rfl, h⟩
      apply hm h

/-- Registering what a loader finds does the same, if it finds something. -/
theorem get_registerLoaded (s : Session) (importer file id : FileId) :
  (s.registerLoaded importer file).1.registry.get id
    = ((Step.registerLoaded importer file).puts s.hooks.loadModule id).or (s.registry.get id)
  := by
  rw [fst_registerLoaded, Step.puts]
  cases s.hooks.loadModule importer file with
  | error cause => rfl
  | ok loaded =>
      cases loaded with
      | none => rfl
      | some m => apply get_register

/-- After marking the modules of a list, a slot in the list has its marker set. -/
theorem Marks.get_eq {s' : Session} {ids : List FileId} (h : s.Marks ids s')
    (hs : s.registry.Placed) :
  s'.registry.get id
    = (s.registry.get id).map (remark (if id ∈ ids then some true else none))
  := by
  rw [h.get]
  cases hm : s.registry.get id with
  | none => rfl
  | some m =>
      obtain rfl := hs.id_eq hm
      rw [Option.map_some, Option.map_some, markIn]
      split_ifs <;> rfl

theorem get_modify_mark (s : Session) (x : FileId) (b : Bool) (id : FileId) :
  (s.registry.modify x fun m => m.mark b).get id
    = (s.registry.get id).map (remark (if x = id then some b else none))
  := by
  rw [Registry.get_modify]
  by_cases h : x = id
  · rw [if_pos h, if_pos h.symm]
    rfl
  · rw [if_neg h, if_neg (Ne.symm h)]
    symm
    apply map_remark_none

/-- Apart from a reset, a step puts a module into a slot or leaves the one that is there, with
the marker that the step makes of it. -/
theorem get_step (hs : s.registry.Placed) {i : Step} (hi : i ≠ .reset) (id : FileId) :
  (s.step i).1.registry.get id
    = (i.puts s.hooks.loadModule id).or
        ((s.registry.get id).map (remark (i.sets id (s.step i).2)))
  := by
  have aside := keeps_step s i
  cases i with
  | register m =>
      rw [fst_step_register, get_register]
      apply congrArg _ (map_remark_none _).symm
  | registerLoaded importer file =>
      rw [fst_step_registerLoaded, get_registerLoaded]
      apply congrArg _ (map_remark_none _).symm
  | addDep m dependency =>
      rw [fst_step_addDep, fst_addDep]
      split_ifs <;> apply (map_remark_none _).symm
  | markDirty x => apply get_modify_mark
  | clearDirty x => apply get_modify_mark
  | markClients x => apply (marks_markClients hs x).get_eq hs
  | invalidate x => apply (marks_invalidate hs x).get_eq hs
  | reset => contradiction
  | addInclude | close | dependentsOf | dependenciesOf => apply (map_remark_none _).symm
  | _ =>
      rw [(aside rfl).registry]
      apply (map_remark_none _).symm

/-! ### Histories -/

/-- A marker that is the last outcome so far is so after a step. -/
theorem marker_step (hs : s.registry.Placed) {last : Option Bool}
    (hlast : ∀ m, s.registry.get id = some m → last = some m.dirty) (i : Step)
    {m : CompiledModule} (hm : (s.step i).1.registry.get id = some m) :
  (i.outcome s.hooks.loadModule id (s.step i).2).or last = some m.dirty
  := by
  by_cases hi : i = .reset
  · subst hi
    rw [step, reset, Registry.get_empty] at hm
    cases hm
  · rw [get_step hs hi] at hm
    rw [Step.outcome]
    cases hputs : i.puts s.hooks.loadModule id with
    | some m' =>
        rw [hputs] at hm
        obtain rfl := Option.some.inj hm
        rfl
    | none =>
        rw [hputs, Option.none_or] at hm
        obtain ⟨m₀, hm₀, rfl⟩ := Option.map_eq_some_iff.mp hm
        rw [hlast m₀ hm₀]
        cases i.sets id (s.step i).2 with
        | none => rfl
        | some b => rfl

/-- It is so after any number of steps. -/
theorem marker_run (hs : s.registry.Placed) {last : Option Bool}
    (hlast : ∀ m, s.registry.get id = some m → last = some m.dirty) (steps : List Step)
    {m : CompiledModule} (hm : (s.run steps).1.registry.get id = some m) :
  (lastOutcome s.hooks.loadModule id (steps.zip (s.run steps).2)).or last = some m.dirty
  := by
  induction steps generalizing s last with
  | nil => apply hlast m hm
  | cons i is ih =>
      rw [run, runSteps_cons, List.zip_cons_cons, lastOutcome_cons, Option.or_assoc,
        ← (settings_step hs i).2]
      apply ih (placed_step hs i) _ hm
      intro m' hm'
      rw [(settings_step hs i).2]
      apply marker_step hs hlast i hm'

/-- In every reachable state the marker of a loaded module is what the last step of the history
that had a say in it made it. A step without a say, a reset apart, leaves the slot as it is, and
one that puts no module there changes at most the marker. In suggest mode the questions for
dirty modules answer the markers; in batch mode no module is dirty. -/
theorem run_marker_lifecycle (config : Config) (hooks : Hooks) (store : Store)
    (steps : List Step) :
  let start : Session := { new config with hooks, store }
  let s := (start.run steps).1
  let trace := steps.zip (start.run steps).2
  (∀ id m, s.registry.get id = some m → lastOutcome hooks.loadModule id trace = some m.dirty)
    ∧ (∀ id i, i ≠ .reset → i.outcome hooks.loadModule id (s.step i).2 = none →
        (s.step i).1.registry.get id = s.registry.get id)
    ∧ (∀ id i m, i ≠ .reset → i.puts hooks.loadModule id = none → s.registry.get id = some m →
        ∃ dirty, (s.step i).1.registry.get id = some (m.mark dirty))
    ∧ (config.mode = .suggest →
        (∀ id, (s.step (.isDirty id)).2 = .flag ((s.registry.get id).any (·.dirty)))
          ∧ ∃ ids, (s.step .dirtyModules).2 = .files ids ∧ Ascending ids
            ∧ ∀ id, id ∈ ids ↔ (s.registry.get id).any (·.dirty))
    ∧ (config.mode = .batch →
        (∀ id, (s.step (.isDirty id)).2 = .flag false)
          ∧ (s.step .dirtyModules).2 = .files [])
  := by
  intro start s trace
  have hstart : start.registry.Placed := Registry.placed_empty
  obtain ⟨hs, hconfig, hload⟩ : start.Settled s := settled_run hstart steps
  have hload' : s.hooks.loadModule = hooks.loadModule := hload
  have hsuggests : s.suggests = decide (config.mode = .suggest) :=
    congrArg (fun c : Config => decide (c.mode = .suggest)) hconfig
  constructor
  · intro id m hm
    have hlast (m : CompiledModule) (h : start.registry.get id = some m) :
        none = some m.dirty := by
      cases Registry.get_empty.symm.trans h
    have h := marker_run hstart hlast steps hm
    rw [Option.or_none] at h
    apply h
  constructor
  · intro id i hi hnone
    obtain ⟨hputs, hsets⟩ := Option.or_eq_none_iff.mp hnone
    rw [get_step hs hi, hload', Option.map_eq_none_iff.mp hputs, hsets, Option.none_or]
    apply map_remark_none
  constructor
  · intro id i m hi hputs hm
    use (i.sets id (s.step i).2).getD m.dirty
    rw [get_step hs hi, hload', hputs, hm]
    rfl
  constructor
  · intro hmode
    have hs' : s.suggests = true := by simp [hsuggests, hmode]
    constructor
    · intro id
      rw [step, isDirty, hs', Bool.true_and]
    · use s.dirtyModules, rfl
      rw [dirtyModules, if_pos hs']
      use hs.map_filter_ascending _
      intro id
      rw [hs.mem_map_filter, Option.any_eq_true]
  · intro hmode
    have hs' : s.suggests = false := by simp [hsuggests, hmode]
    constructor
    · intro id
      rw [step, isDirty, hs', Bool.false_and]
    · rw [step, dirtyModules, hs']
      rfl

end Session

end Recompile
