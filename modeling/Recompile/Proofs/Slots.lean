import Mathlib.Tactic.SplitIfs
import Mathlib.Tactic.Use
import Recompile.Registry
import Recompile.Proofs.Places

/-!
# Slots of the registry

A registry is told by what `get` finds in the slot of each file. Every operation changes the
slots it names and no others, and keeps each module in the slot of its own number (`Placed`).
-/

namespace Recompile

open FileId (Ascending)

namespace Registry

variable {r r' : Registry} {m : CompiledModule} {id x : FileId}

/-- A module is found exactly in the slot at the place of its file. -/
theorem get_eq_some_iff :
  r.get id = some m ↔ ∃ i, id.index = some i ∧ r.slots[i]? = some (some m)
  := by
  simp [get, Option.bind_eq_some_iff, Option.join_eq_some_iff]

/-- Nothing is found for a file without a number. -/
theorem get_of_not_isKnown (h : ¬ id.isKnown) :
  r.get id = none
  := by
  simp [get, FileId.index, h]

theorem get_empty :
  empty.get id = none
  := by
  simp [get, empty]

/-- A file is loaded exactly if a module is found for it. -/
theorem contains_iff :
  r.contains id ↔ ∃ m, r.get id = some m
  := Option.isSome_iff_exists

/-- Each module is in the slot of its own number. -/
def Placed (r : Registry) : Prop :=
  ∀ (i : Nat) (m : CompiledModule), r.slots[i]? = some (some m) → m.id.index = some i

theorem placed_empty :
  empty.Placed
  := by
  intro i m h
  simp [empty] at h

/-- The module that is found for a file has the number of the file. -/
theorem Placed.id_eq (hr : r.Placed) (h : r.get id = some m) :
  m.id = id
  := by
  obtain ⟨i, hi, hm⟩ := get_eq_some_iff.mp h
  obtain ⟨hk, hp⟩ := FileId.index_eq_some_iff.mp (hr i m hm)
  obtain ⟨hk', hp'⟩ := FileId.index_eq_some_iff.mp hi
  apply FileId.eq_of_place_eq hk hk'
  rw [hp, hp']

/-- A file for which a module is found has a number. -/
theorem isKnown_of_get (h : r.get id = some m) :
  id.isKnown
  := by
  obtain ⟨i, hi, -⟩ := get_eq_some_iff.mp h
  apply (FileId.index_eq_some_iff.mp hi).1

theorem isKnown_of_contains (h : r.contains id) :
  id.isKnown
  := by
  obtain ⟨m, hm⟩ := contains_iff.mp h
  apply isKnown_of_get hm

/-! ### Registering -/

/-- A module without a number is refused, with its name. -/
theorem register_eq_error (h : ¬ m.id.isKnown) :
  r.register m = .error (.noSlot m.name m.id)
  := by
  simp [register, FileId.index, h]

/-- The registry once a module with a number has been put into its slot. -/
def withModule (r : Registry) (m : CompiledModule) : Registry :=
  ⟨(r.grow m.id.place).slots.setIfInBounds m.id.place (some m)⟩

/-- A module with a number is taken, and what was in its slot is handed back. -/
theorem register_eq_ok (h : m.id.isKnown) :
  r.register m = .ok (r.get m.id, r.withModule m)
  := by
  rw [register, FileId.index_of_isKnown h]
  rfl

/-- Putting a module into its slot leaves all other slots as they are, also those that come into
being. -/
theorem slots_withModule (i : Nat) :
  (r.withModule m).slots[i]?.join
    = if i = m.id.place then some m else r.slots[i]?.join
  := by
  rw [withModule, grow]
  split_ifs with h
  · subst h
    rw [Array.getElem?_setIfInBounds_self, if_pos]
    · rfl
    · simp only [Array.size_append, Array.size_replicate]
      omega
  · rw [Array.getElem?_setIfInBounds_ne (Ne.symm h), Array.getElem?_append]
    split_ifs with h'
    · rfl
    · have hi : r.slots[i]? = none := by
        apply Array.getElem?_eq_none
        omega
      rw [hi, Array.getElem?_replicate]
      split_ifs <;> rfl

/-- Afterwards the module is found for its own number, and for every other file what was found
before. -/
theorem get_withModule (hm : m.id.isKnown) :
  (r.withModule m).get x = if x = m.id then some m else r.get x
  := by
  by_cases hx : x.isKnown
  · rw [get, get, FileId.index_of_isKnown hx, Option.bind_some, Option.bind_some,
      slots_withModule]
    by_cases h : x = m.id
    · simp [h]
    · rw [if_neg h, if_neg]
      intro h'
      apply h
      apply FileId.eq_of_place_eq hx hm h'
  · have h : x ≠ m.id := by
      rintro rfl
      apply hx hm
    rw [if_neg h, get_of_not_isKnown hx, get_of_not_isKnown hx]

/-- A module that is put into its slot is in the slot of its own number. -/
theorem Placed.withModule (hr : r.Placed) (hm : m.id.isKnown) :
  (r.withModule m).Placed
  := by
  intro i m' h
  have h' := congrArg Option.join h
  rw [slots_withModule] at h'
  split_ifs at h' with hi
  · obtain rfl := Option.some.inj h'
    rw [hi, FileId.index_of_isKnown hm]
  · apply hr i m'
    apply Option.join_eq_some_iff.mp h'

/-! ### Removing -/

/-- Taking a module out hands back what was found for the file. -/
theorem fst_unregister :
  (r.unregister id).1 = r.get id
  := by
  by_cases hid : id.isKnown
  · rw [unregister, FileId.index_of_isKnown hid]
  · rw [get_of_not_isKnown hid, unregister, FileId.index, if_neg hid]

/-- Afterwards nothing is found for the file, and for every other file what was found before. -/
theorem get_unregister :
  (r.unregister id).2.get x = if x = id then none else r.get x
  := by
  by_cases hid : id.isKnown
  · rw [unregister, FileId.index_of_isKnown hid]
    by_cases hx : x.isKnown
    · simp only [get, FileId.index_of_isKnown hx, Option.bind_some]
      split_ifs with h
      · subst h
        rw [Array.getElem?_setIfInBounds_self]
        split_ifs <;> rfl
      · rw [Array.getElem?_setIfInBounds_ne]
        intro h'
        apply h
        apply FileId.eq_of_place_eq hx hid h'.symm
    · simp [get_of_not_isKnown hx]
  · rw [unregister, FileId.index, if_neg hid]
    split_ifs with h
    · subst h
      apply get_of_not_isKnown hid
    · rfl

/-- Taking a module out moves no other. -/
theorem Placed.unregister (hr : r.Placed) :
  (r.unregister id).2.Placed
  := by
  rw [Registry.unregister]
  cases id.index with
  | none => exact hr
  | some j =>
      intro i m h
      by_cases hij : j = i
      · subst hij
        rw [Array.getElem?_setIfInBounds_self] at h
        split_ifs at h
        cases h
      · rw [Array.getElem?_setIfInBounds_ne hij] at h
        apply hr i m h

/-! ### Changing modules -/

/-- Changing the module of a file changes what is found for this file and for no other. -/
theorem get_modify (f : CompiledModule → CompiledModule) :
  (r.modify id f).get x = if x = id then (r.get x).map f else r.get x
  := by
  by_cases hid : id.isKnown
  · rw [modify, FileId.index_of_isKnown hid]
    by_cases hx : x.isKnown
    · simp only [get, FileId.index_of_isKnown hx, Option.bind_some, Array.getElem?_modify]
      by_cases h : x = id
      · subst h
        simp [Option.join_map_eq_map_join]
      · rw [if_neg h, if_neg]
        intro h'
        apply h
        apply FileId.eq_of_place_eq hx hid h'.symm
    · simp [get_of_not_isKnown hx]
  · have h : r.modify id f = r := by
      simp [modify, FileId.index, hid]
    rw [h]
    split_ifs with h'
    · subst h'
      simp [get_of_not_isKnown hid]
    · rfl

/-- Changing all modules changes what is found for every file. -/
theorem get_map (f : CompiledModule → CompiledModule) :
  (r.map f).get x = (r.get x).map f
  := by
  cases hx : x.index with
  | none => simp [get, hx]
  | some i => simp [get, hx, map, Option.join_map_eq_map_join]

/-- A change that keeps the numbers of the modules keeps them in their slots. -/
theorem Placed.map (hr : r.Placed) {f : CompiledModule → CompiledModule}
    (hf : ∀ m, (f m).id = m.id) :
  (r.map f).Placed
  := by
  intro i m h
  rw [Registry.map, Array.getElem?_map] at h
  obtain ⟨slot, hslot, h'⟩ := Option.map_eq_some_iff.mp h
  obtain ⟨m', rfl, rfl⟩ := Option.map_eq_some_iff.mp h'
  rw [hf]
  apply hr i m' hslot

/-! ### The loaded modules in order -/

/-- The modules are what is in the slots. -/
theorem mem_modules_iff :
  m ∈ r.modules ↔ some m ∈ r.slots
  := by
  simp [modules]

/-- The modules are those that are found for their own numbers. -/
theorem Placed.mem_modules (hr : r.Placed) :
  m ∈ r.modules ↔ r.get m.id = some m
  := by
  rw [modules, List.mem_filterMap, get_eq_some_iff]
  constructor
  · rintro ⟨slot, hslot, rfl⟩
    obtain ⟨i, hi⟩ := List.mem_iff_getElem?.mp hslot
    rw [Array.getElem?_toList] at hi
    use i, hr i m hi
  · rintro ⟨i, -, hi⟩
    use some m
    constructor
    · apply List.mem_iff_getElem?.mpr
      use i
      rw [Array.getElem?_toList, hi]
    · rfl

/-- Only what a change does to the loaded modules matters. -/
theorem map_congr {f g : CompiledModule → CompiledModule} (h : ∀ m ∈ r.modules, f m = g m) :
  r.map f = r.map g
  := by
  apply congrArg Registry.mk
  apply Array.map_congr_left
  intro slot hslot
  cases slot with
  | none => rfl
  | some m => rw [Option.map_some, Option.map_some, h m (mem_modules_iff.mpr hslot)]

theorem map_map (f g : CompiledModule → CompiledModule) :
  (r.map f).map g = r.map fun m => g (f m)
  := by
  have h : Option.map g ∘ Option.map f = Option.map fun m => g (f m) := by
    funext slot
    cases slot <;> rfl
  simp only [Registry.map, Array.map_map, h]

theorem map_id :
  (r.map fun m => m) = r
  := by
  have h : Option.map (fun m : CompiledModule => m) = id := by
    funext slot
    cases slot <;> rfl
  rw [Registry.map, h, Array.map_id]

/-- Changing the module in a slot is changing every module with its number. -/
theorem Placed.modify_eq_map (hr : r.Placed) (f : CompiledModule → CompiledModule) :
  r.modify id f = r.map fun m => if m.id = id then f m else m
  := by
  by_cases hid : id.isKnown
  · rw [Registry.modify, FileId.index_of_isKnown hid]
    apply congrArg Registry.mk
    apply Array.ext_getElem?
    intro i
    rw [Array.getElem?_modify, Array.getElem?_map]
    match hslot : r.slots[i]? with
    | none => simp
    | some none => simp
    | some (some m) =>
        obtain ⟨hm, hi⟩ := FileId.index_eq_some_iff.mp (hr i m hslot)
        have h : id.place = i ↔ m.id = id := by
          constructor
          · intro h
            apply FileId.eq_of_place_eq hm hid
            rw [hi, h]
          · rintro rfl
            apply hi
        simp only [h, Option.map_some]
        split_ifs <;> rfl
  · rw [Registry.modify, FileId.index, if_neg hid]
    symm
    rw [← map_id (r := r), map_map]
    apply map_congr
    intro m hm
    rw [if_neg]
    rintro rfl
    apply hid (isKnown_of_get (hr.mem_modules.mp hm))

/-- A change of one module that keeps its number keeps it in its slot. -/
theorem Placed.modify (hr : r.Placed) {f : CompiledModule → CompiledModule}
    (hf : ∀ m, (f m).id = m.id) :
  (r.modify id f).Placed
  := by
  rw [hr.modify_eq_map]
  apply hr.map
  intro m
  split_ifs
  · apply hf
  · rfl

/-- The modules are listed in the order of their numbers, each once. -/
theorem Placed.modules_ascending (hr : r.Placed) :
  Ascending (r.modules.map (·.id))
  := by
  rw [Ascending, List.pairwise_map, modules, List.pairwise_filterMap, List.pairwise_iff_getElem]
  intro i j hi hj hij m hm m' hm'
  have h := hr i m (by simpa [Array.getElem?_eq_some_iff] using ⟨_, hm⟩)
  have h' := hr j m' (by simpa [Array.getElem?_eq_some_iff] using ⟨_, hm'⟩)
  obtain ⟨hk, hp⟩ := FileId.index_eq_some_iff.mp h
  obtain ⟨hk', hp'⟩ := FileId.index_eq_some_iff.mp h'
  rw [FileId.lt_iff_place_lt hk hk', hp, hp']
  apply hij

/-- The numbers of the loaded modules with a property. -/
theorem Placed.mem_map_filter (hr : r.Placed) (p : CompiledModule → Bool) :
  x ∈ (r.modules.filter p).map (·.id) ↔ ∃ m, r.get x = some m ∧ p m
  := by
  rw [List.mem_map]
  constructor
  · rintro ⟨m, hm, rfl⟩
    obtain ⟨hm, hp⟩ := List.mem_filter.mp hm
    use m, hr.mem_modules.mp hm, hp
  · rintro ⟨m, hm, hp⟩
    obtain rfl := hr.id_eq hm
    use m, List.mem_filter.mpr ⟨hr.mem_modules.mpr hm, hp⟩

/-- So are those of them that are asked for. -/
theorem Placed.map_filter_ascending (hr : r.Placed) (p : CompiledModule → Bool) :
  Ascending ((r.modules.filter p).map (·.id))
  := by
  apply List.Pairwise.sublist _ hr.modules_ascending
  apply List.filter_sublist.map

end Registry

end Recompile
