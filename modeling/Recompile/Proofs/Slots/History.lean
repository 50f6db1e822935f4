import Mathlib.Data.List.Induction
import Recompile.Proofs.Slots

/-!
# Histories of the registry

A registry is a finite map from known files to modules. What it holds after a history is told step
by step (`Step.effect`): a registration sets one entry, a removal takes one away, a new name changes
one entry or all of them. What a registry answers is read off the map. Only the number of slots
remembers more: it is told by the registrations since everything was last forgotten.
-/

namespace Recompile

open FileId (Ascending)

namespace Registry

variable {r : Registry} {m : CompiledModule} {id x : FileId} {steps : List Step} {n : Nat}

/-! ### The number of slots -/

/-- Putting a module into its slot makes room up to this slot. -/
theorem size_withModule :
  (r.withModule m).size = max r.size (m.id.place + 1)
  := by
  simp only [size, withModule, grow, Array.size_setIfInBounds, Array.size_append,
    Array.size_replicate]
  omega

theorem size_unregister :
  (r.unregister id).2.size = r.size
  := by
  rw [unregister]
  cases id.index with
  | none => rfl
  | some i => apply Array.size_setIfInBounds

theorem size_modify (f : CompiledModule → CompiledModule) :
  (r.modify id f).size = r.size
  := by
  rw [modify]
  cases id.index with
  | none => rfl
  | some i => apply Array.size_modify

theorem size_map (f : CompiledModule → CompiledModule) :
  (r.map f).size = r.size
  := Array.size_map

/-! ### Single steps -/

/-- The module with a number after a step. -/
def Step.effect (held : FileId → Option CompiledModule) (i : Step) (x : FileId) :
    Option CompiledModule :=
  match i with
  | .register m => if m.id.isKnown ∧ x = m.id then some m else held x
  | .unregister id => if x = id then none else held x
  | .rename id name => if x = id then (held x).map fun m => { m with name } else held x
  | .renameAll suffix => (held x).map fun m => { m with name := m.name ++ suffix }
  | .clear => none
  | .get _ | .contains _ | .size | .isEmpty | .modules => held x

theorem step_register (hm : m.id.isKnown) :
  r.step (.register m) = (r.withModule m, .slot (r.get m.id))
  := by
  rw [step, register_eq_ok hm]

theorem step_register_refused (hm : ¬ m.id.isKnown) :
  r.step (.register m) = (r, .fault (.noSlot m.name m.id))
  := by
  rw [step, register_eq_error hm]

/-- After a step a file has the module that the step makes of the one it had. -/
theorem get_step (i : Step) :
  (r.step i).1.get x = i.effect r.get x
  := by
  cases i with
  | register m =>
      by_cases hm : m.id.isKnown
      · rw [step_register hm, get_withModule hm, Step.effect]
        simp only [hm, true_and]
      · rw [step_register_refused hm, Step.effect]
        simp only [hm, Bool.false_eq_true, false_and, if_false]
  | unregister id => apply get_unregister
  | rename id name => apply get_modify
  | renameAll suffix => apply get_map
  | clear => apply get_empty
  | get | contains | size | isEmpty | modules => rfl

/-- No step moves a module to another slot. -/
theorem placed_step (hr : r.Placed) (i : Step) :
  (r.step i).1.Placed
  := by
  cases i with
  | register m =>
      by_cases hm : m.id.isKnown
      · rw [step_register hm]
        apply hr.withModule hm
      · rw [step_register_refused hm]
        apply hr
  | unregister id => apply hr.unregister
  | rename id name => exact hr.modify fun _ => rfl
  | renameAll suffix => exact hr.map fun _ => rfl
  | clear => apply placed_empty
  | get | contains | size | isEmpty | modules => exact hr

/-! ### Histories -/

/-- Whatever history a registry has, each module is in the slot of its own number. -/
theorem placed_run (steps : List Step) :
  (run steps).1.Placed
  := by
  apply runSteps_induction (P := Placed) _ placed_empty
  intro r i hr
  apply placed_step hr

/-- A registry holds what the steps of its history have left. -/
theorem get_run (steps : List Step) :
  (run steps).1.get = steps.foldl Step.effect fun _ => none
  := by
  apply runSteps_foldl (P := fun (r : Registry) held => r.get = held)
  · rintro r _ i rfl
    funext x
    apply get_step
  · funext x
    apply get_empty

/-- Whether a step forgets everything. -/
def Step.clears : Step → Bool
  | .clear => true
  | _ => false

/-- A number is one more than the largest of the registered files, or zero if there are none. -/
structure OnePast (n : Nat) (steps : List Step) : Prop where
  place_lt : ∀ m, .register m ∈ steps → m.id.isKnown → m.id.place < n
  reached : n = 0 ∨ ∃ m, .register m ∈ steps ∧ m.id.isKnown ∧ n = m.id.place + 1

theorem onePast_nil :
  OnePast 0 []
  where
  place_lt _ h := absurd h List.not_mem_nil
  reached := .inl rfl

/-- One more registered file raises the number as far as this file, or not at all. -/
theorem OnePast.register (h : OnePast n steps) (hm : m.id.isKnown) :
  OnePast (max n (m.id.place + 1)) (steps ++ [.register m])
  where
  place_lt m' hm' hknown := by
    rcases List.mem_append.mp hm' with hm' | hm'
    · have hlt := h.place_lt m' hm' hknown
      omega
    · obtain rfl := Step.register.inj (List.mem_singleton.mp hm')
      omega
  reached := by
    right
    rcases Nat.le_total n (m.id.place + 1) with hle | hle
    · use m, List.mem_append_right _ (List.mem_singleton.mpr rfl), hm, Nat.max_eq_right hle
    · rw [Nat.max_eq_left hle]
      rcases h.reached with hzero | ⟨m', hm', hknown, hn⟩
      · omega
      · use m', List.mem_append_left _ hm', hknown, hn

/-- A step that registers nothing makes no difference. -/
theorem OnePast.concat {i : Step} (h : OnePast n steps)
    (hi : ∀ m, i = .register m → ¬ m.id.isKnown) :
  OnePast n (steps ++ [i])
  where
  place_lt m hm hknown := by
    rcases List.mem_append.mp hm with hm | hm
    · apply h.place_lt m hm hknown
    · apply absurd hknown (hi m (List.mem_singleton.mp hm).symm)
  reached := by
    rcases h.reached with hzero | ⟨m, hm, hknown, hn⟩
    · left
      apply hzero
    · right
      use m, List.mem_append_left _ hm, hknown, hn

/-- A step that does not forget everything has slots for what it registers. -/
theorem OnePast.step {i : Step} (h : OnePast r.size steps) (hi : i.clears = false) :
  OnePast (r.step i).1.size (steps ++ [i])
  := by
  cases i with
  | register m =>
      by_cases hm : m.id.isKnown
      · rw [step_register hm, size_withModule]
        apply h.register hm
      · rw [step_register_refused hm]
        apply h.concat
        rintro _ ⟨⟩
        apply hm
  | unregister id =>
      rw [Registry.step, size_unregister]
      exact h.concat fun _ => nofun
  | rename id name =>
      rw [Registry.step, size_modify]
      exact h.concat fun _ => nofun
  | renameAll suffix =>
      rw [Registry.step, size_map]
      exact h.concat fun _ => nofun
  | clear => cases hi
  | get | contains | size | isEmpty | modules => exact h.concat fun _ => nofun

/-- There are slots up to the largest file registered since everything was last forgotten. -/
theorem onePast_size_run (steps : List Step) :
  OnePast (run steps).1.size (sinceLast Step.clears steps)
  := by
  have hsteps : (steps.zip (run steps).2).map Prod.fst = steps :=
    List.map_fst_zip (Nat.le_of_eq (length_runSteps step empty steps).symm)
  rw [← hsteps, ← map_sinceLast, hsteps]
  apply runSteps_sinceLast (P := fun (r : Registry) past => OnePast r.size (past.map Prod.fst))
  · intro r i hi
    cases i <;> cases hi
    exact onePast_nil
  · intro r past i hi h
    rw [List.map_append]
    apply h.step hi
  · exact onePast_nil

/-! ### What a registry answers -/

/-- A registry is empty exactly if no file is found in it. -/
theorem Placed.isEmpty_iff (hr : r.Placed) :
  r.isEmpty ↔ ∀ x, r.get x = none
  := by
  rw [isEmpty, Array.all_eq_true_iff_forall_mem]
  constructor
  · intro h x
    rw [Option.eq_none_iff_forall_ne_some]
    intro m hm
    obtain ⟨i, -, hi⟩ := get_eq_some_iff.mp hm
    cases h _ (Array.mem_of_getElem? hi)
  · intro h slot hslot
    cases slot with
    | none => rfl
    | some m =>
        obtain ⟨i, hi⟩ := Array.mem_iff_getElem?.mp hslot
        have hm : r.get m.id = some m := get_eq_some_iff.mpr ⟨i, hr i m hi, hi⟩
        rw [h] at hm
        cases hm

/-- Files renamed one after the other. -/
theorem Placed.runSteps_rename (hr : r.Placed) (names : FileId → String) (ids : List FileId) :
  (runSteps step r (ids.map fun id => .rename id (names id))).1
    = r.map fun m => if m.id ∈ ids then { m with name := names m.id } else m
  := by
  induction ids generalizing r with
  | nil =>
      simp only [List.not_mem_nil, if_false]
      exact map_id.symm
  | cons id ids ih =>
      have hr' : (r.modify id fun m => { m with name := names id }).Placed :=
        hr.modify fun _ => rfl
      rw [List.map_cons, runSteps_cons, step, ih hr', hr.modify_eq_map, map_map]
      apply map_congr
      intro m _
      by_cases h : m.id = id
      · subst h
        simp
      · simp [h]

/-- Whatever names all modules are given at once, giving them one after the other does the same. -/
theorem Placed.exists_runSteps_rename (hr : r.Placed) (names : CompiledModule → String) :
  ∃ later : List Step, (∀ i ∈ later, ∃ id name, i = .rename id name)
    ∧ (runSteps step r later).1 = r.map fun m => { m with name := names m }
  := by
  let nameAt (id : FileId) : String := (r.get id).elim "" names
  use (r.modules.map (·.id)).map fun id => .rename id (nameAt id)
  constructor
  · intro i hi
    obtain ⟨id, -, rfl⟩ := List.mem_map.mp hi
    use id, nameAt id
  · rw [hr.runSteps_rename]
    apply map_congr
    intro m hm
    have hname : nameAt m.id = names m := by simp [nameAt, hr.mem_modules.mp hm]
    rw [if_pos (List.mem_map_of_mem hm), hname]

/-- After every history a registry is a finite map from known files to modules, each under its own
number: what the steps have left. A module with a number takes its place in the map, one without a
number is refused and nothing changes. What is asked of any file is answered from the map; the
loaded modules are its entries, in ascending order, and the registry is empty exactly if the map is.
There are slots up to the largest file registered since everything was last forgotten, and a removal
leaves them. Any new names for all modules are given by a history, too. -/
theorem run_is_finite_map (steps : List Step) :
  let r := (run steps).1
  let held := steps.foldl Step.effect fun _ => none
  (∀ (i : Nat) (m : CompiledModule), r.slots[i]? = some (some m) → m.id.index = some i)
    ∧ (∀ x m, held x = some m → x.isKnown ∧ m.id = x)
    ∧ (∀ m : CompiledModule, m.id.isKnown →
        (r.step (.register m)).2 = .slot (held m.id)
          ∧ ∀ x, (r.step (.register m)).1.get x = if x = m.id then some m else held x)
    ∧ (∀ m : CompiledModule, ¬ m.id.isKnown →
        r.step (.register m) = (r, .fault (.noSlot m.name m.id)))
    ∧ (∀ id, (r.step (.unregister id)).2 = .slot (held id)
        ∧ ∀ x, (r.step (.unregister id)).1.get x = if x = id then none else held x)
    ∧ (∀ id, r.step (.get id) = (r, .slot (held id)))
    ∧ (∃ all, r.step .modules = (r, .modules all) ∧ Ascending (all.map (·.id))
        ∧ ∀ m, m ∈ all ↔ held m.id = some m)
    ∧ (∃ b : Bool, r.step .isEmpty = (r, .flag b) ∧ (b ↔ ∀ x, held x = none))
    ∧ (∃ n, r.step .size = (r, .count n)
        ∧ (∀ m, .register m ∈ sinceLast Step.clears steps → m.id.isKnown → m.id.place < n)
        ∧ (n = 0
          ∨ ∃ m, .register m ∈ sinceLast Step.clears steps ∧ m.id.isKnown ∧ n = m.id.place + 1)
        ∧ ∀ id, ((r.step (.unregister id)).1.step .size).2 = .count n)
    ∧ (∀ names : CompiledModule → String, ∃ later : List Step,
        (∀ i ∈ later, ∃ id name, i = .rename id name)
          ∧ (run (steps ++ later)).1 = r.map fun m => { m with name := names m })
  := by
  intro r held
  have hr : r.Placed := placed_run steps
  have hheld : held = r.get := (get_run steps).symm
  have hsize : OnePast r.size (sinceLast Step.clears steps) := onePast_size_run steps
  rw [hheld]
  constructor
  · exact hr
  constructor
  · intro x m hm
    use isKnown_of_get hm, hr.id_eq hm
  constructor
  · intro m hm
    rw [step_register hm]
    use rfl
    intro x
    apply get_withModule hm
  constructor
  · intro m hm
    apply step_register_refused hm
  constructor
  · intro id
    constructor
    · apply congrArg Answer.slot fst_unregister
    · intro x
      apply get_unregister
  constructor
  · intro id
    rfl
  constructor
  · use r.modules, rfl, hr.modules_ascending
    intro m
    apply hr.mem_modules
  constructor
  · use r.isEmpty, rfl
    apply hr.isEmpty_iff
  constructor
  · use r.size, rfl, hsize.place_lt, hsize.reached
    intro id
    apply congrArg Answer.count size_unregister
  · intro names
    obtain ⟨later, hlater, hrun⟩ := hr.exists_runSteps_rename names
    use later, hlater
    rw [run, runSteps_append]
    apply hrun

end Registry

end Recompile
