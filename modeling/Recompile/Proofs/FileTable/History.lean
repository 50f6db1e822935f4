import Recompile.Proofs.FileTable

/-!
# Histories of the table of files

Whatever is asked in between, a table numbers the places that paths lead to in the order of first
sight: the number of a place is how many other places were seen before it. Places and numbers
determine each other, the spelling kept for a place is the one it was first seen with, and no later
step changes the number or the spelling.
-/

namespace Recompile

namespace Path

variable {ps before after : List Path} {p : Path}

/-- A list of paths leads to as many places as it has different components. -/
theorem length_firsts (ps : List Path) :
  (firsts ps).length = (ps.map components).dedup.length
  := by
  apply Nat.le_antisymm
  · apply length_firsts_le fun _ h => h
  · rw [← List.length_map (f := components)]
    apply List.Subperm.length_le
    apply List.subperm_of_subset (List.nodup_dedup _)
    intro c hc
    obtain ⟨p, hp, rfl⟩ := List.mem_map.mp (List.mem_dedup.mp hc)
    obtain ⟨q, hq, hqp⟩ := exists_same_firsts.mpr ⟨p, hp, Same.refl p⟩
    rw [List.mem_map]
    use q, hq, hqp

/-- A path to a new place comes behind the places seen before it. -/
theorem getElem?_firsts (hnew : ∀ q ∈ before, ¬ q.Same p) :
  (firsts (before ++ p :: after))[(firsts before).length]? = some p
  := by
  have hfirsts : firsts (before ++ [p]) = firsts before ++ [p] := by
    rw [firsts_concat, addNew, if_neg]
    rw [exists_same_firsts]
    rintro ⟨q, hq, hqp⟩
    apply hnew q hq hqp
  obtain ⟨rest, hrest⟩ := prefix_firsts (before ++ [p]) after
  rw [List.append_assoc, List.singleton_append, hfirsts, List.append_assoc] at hrest
  rw [← hrest, List.getElem?_append_right (Nat.le_refl _), Nat.sub_self]
  rfl

end Path

open Recompile.Path (Fit)

namespace Interner

variable {t t' : Interner} {ps : List Path} {p q : Path} {id : FileId} {steps : List Step}

/-! ### Numbers and places -/

/-- The path of a number is the one at its place. -/
theorem path_eq_some_iff :
  t.path id = some p ↔ id.isKnown ∧ t.paths[id.place]? = some p
  := by
  rw [path, Option.bind_eq_some_iff]
  constructor
  · rintro ⟨i, hi, hp⟩
    obtain ⟨hid, rfl⟩ := FileId.index_eq_some_iff.mp hi
    use hid, hp
  · rintro ⟨hid, hp⟩
    use id.place, FileId.index_of_isKnown hid, hp

/-- Nothing has a path but the numbers below the size of the table. -/
theorem path_eq_none_iff :
  t.path id = none ↔ ¬ (id.isKnown ∧ id.place < t.size)
  := by
  rw [Option.eq_none_iff_forall_ne_some]
  simp only [ne_eq, path_eq_some_iff, size]
  constructor
  · rintro h ⟨hid, hlt⟩
    apply h _ ⟨hid, Array.getElem?_eq_getElem hlt⟩
  · rintro h p ⟨hid, hp⟩
    apply h ⟨hid, (Array.getElem?_eq_some_iff.mp hp).1⟩

theorem path_ofIndex (ht : t.size ≤ 2 ^ 31) {i : Nat} (hp : t.paths[i]? = some p) :
  t.path (FileId.ofIndex i) = some p
  := by
  have hi : i < 2 ^ 31 := Nat.lt_of_lt_of_le (Array.getElem?_eq_some_iff.mp hp).1 ht
  rw [path_eq_some_iff, FileId.place_ofIndex hi]
  use FileId.isKnown_ofIndex hi, hp

/-- A path has the number of the place it leads to. -/
theorem lookup_listing_iff (hfit : Fit ps) :
  (listing ps).lookup p = some id ↔ ∃ q, (listing ps).path id = some q ∧ q.Same p
  := by
  constructor
  · intro h
    obtain ⟨i, hi, hip, rfl⟩ := place_of_lookup h
    use (listing ps).paths[i]
    use path_ofIndex (t := listing ps) hfit (Array.getElem?_eq_getElem hi), hip
  · rintro ⟨q, hq, hqp⟩
    obtain ⟨hid, hq⟩ := path_eq_some_iff.mp hq
    rw [← lookup_congr hqp, lookup_of_firsts (i := id.place), FileId.ofIndex_place hid]
    rw [← hq]
    symm
    apply List.getElem?_toArray

/-! ### Single steps -/

/-- The path a step asks a number for, if it asks for one. -/
def Step.sight : Step → Option Path
  | .intern p => some p
  | _ => none

/-- The paths that a history asks numbers for, in order. -/
def sights (steps : List Step) : List Path := steps.filterMap Step.sight

/-- Asking for a number puts the path behind those that were asked for before, and answers with its
number. -/
theorem step_intern_listing (hfit : Fit (ps ++ [p])) :
  (listing ps).step (.intern p)
    = (listing (ps ++ [p]), .file (some (number (ps ++ [p]) p)))
  := by
  rw [step, intern_listing hfit.of_append, if_pos hfit]

/-- After a step the table is that of all paths that were asked for up to then. -/
theorem step_listing {i : Step} (hfit : Fit (ps ++ i.sight.toList)) :
  ((listing ps).step i).1 = listing (ps ++ i.sight.toList)
  := by
  cases i with
  | intern p =>
      rw [Step.sight, Option.toList_some] at hfit ⊢
      rw [step_intern_listing hfit]
  | lookup | path | size | isEmpty | toList =>
      apply congrArg listing (List.append_nil ps).symm

/-- The numbers that `t` has given, and the spellings kept for them, are the same in `t'`. -/
structure Keeps (t t' : Interner) : Prop where
  lookup : t.Extends t'
  path : ∀ id p, t.path id = some p → t'.path id = some p

theorem keeps_refl (t : Interner) :
  t.Keeps t
  := ⟨Extends.refl t, fun _ _ h => h⟩

/-- No step takes a number or a spelling back. -/
theorem keeps_step (t : Interner) (i : Step) :
  t.Keeps (t.step i).1
  := by
  cases i with
  | intern p =>
      rw [step]
      cases h : t.intern p with
      | error cause => exact keeps_refl t
      | ok r =>
          constructor
          · apply extends_of_intern h
          · intro id p
            apply path_of_intern h
  | lookup | path | size | isEmpty | toList => exact keeps_refl t

/-! ### Histories -/

/-- No later step takes a number or a spelling back. -/
theorem keeps_run (t : Interner) (later : List Step) :
  t.Keeps (runSteps step t later).1
  := by
  apply runSteps_induction (P := t.Keeps) _ (keeps_refl t)
  intro t' i h
  have h' := keeps_step t' i
  constructor
  · intro p id hp
    apply h'.lookup p id (h.lookup p id hp)
  · intro id p hp
    apply h'.path id p (h.path id p hp)

theorem sights_concat (steps : List Step) (i : Step) :
  sights (steps ++ [i]) = sights steps ++ i.sight.toList
  := filterMap_concat _ _ _

/-- The table after a history lists the places of the paths that were asked for. -/
theorem fst_run (hfit : Fit (sights steps)) :
  (run steps).1 = listing (sights steps)
  := by
  induction steps using List.reverseRecOn with
  | nil => rfl
  | append_singleton steps i ih =>
      rw [sights_concat] at hfit ⊢
      rw [run, runSteps_concat, ← step_listing hfit, ← ih hfit.of_append]
      rfl

/-- A path that is asked for is answered with the number that it has after the history. -/
theorem snd_run_intern (hfit : Fit (sights steps)) {k : Nat}
    (hk : steps[k]? = some (.intern p)) :
  (run steps).2[k]? = some (.file (some (number (sights steps) p)))
  := by
  have htake : sights (steps.take (k + 1)) = sights (steps.take k) ++ [p] := by
    rw [List.take_add_one, hk, Option.toList_some, sights_concat]
    rfl
  have hprefix : sights (steps.take k) ++ [p] <+: sights steps := by
    rw [← htake]
    apply (List.take_prefix _ _).filterMap
  have hfit' : Fit (sights (steps.take k) ++ [p]) := by
    obtain ⟨rest, hrest⟩ := hprefix
    rw [← hrest] at hfit
    apply hfit.of_append
  rw [run, getElem?_runSteps, hk, Option.map_some, ← run, fst_run hfit'.of_append,
    step_intern_listing hfit', number_eq_of_first hprefix (by simp)]

/-! ### What a table answers -/

/-- The table is as large as there are different places. -/
theorem size_listing (ps : List Path) :
  (listing ps).size = (ps.map Path.components).dedup.length
  := Path.length_firsts ps

/-- The numbers in use are those below the size of the table. -/
theorem exists_lookup_listing_iff (ps : List Path) (id : FileId) :
  (∃ p, (listing ps).lookup p = some id) ↔ ∃ i < (listing ps).size, id = FileId.ofIndex i
  := by
  constructor
  · rintro ⟨p, hp⟩
    obtain ⟨i, hi, -, rfl⟩ := place_of_lookup hp
    use i, hi
  · rintro ⟨i, hi, rfl⟩
    use (listing ps).paths[i]
    apply lookup_of_firsts
    apply List.getElem?_eq_getElem hi

/-- The number of a place is how many others were seen before it, and its spelling is the one it
was first seen with. -/
theorem listing_first (hfit : Fit ps) {before after : List Path}
    (hps : ps = before ++ p :: after) (hnew : ∀ q ∈ before, ¬ q.Same p) :
  (listing ps).lookup p = some (FileId.ofIndex (before.map Path.components).dedup.length)
    ∧ (listing ps).path (FileId.ofIndex (before.map Path.components).dedup.length) = some p
  := by
  have hfirst : (Path.firsts ps)[(before.map Path.components).dedup.length]? = some p := by
    rw [hps, ← Path.length_firsts]
    apply Path.getElem?_firsts hnew
  constructor
  · apply lookup_of_firsts hfirst
  · apply path_ofIndex (t := listing ps) hfit
    rw [← hfirst]
    apply List.getElem?_toArray

/-- The list of all files is in the order of their numbers. -/
theorem map_fst_toList (t : Interner) :
  t.toList.map Prod.fst = (List.range t.size).map FileId.ofIndex
  := by
  rw [toList, List.map_map, size, ← Array.length_toList, List.range_eq_range',
    ← List.zipIdx_map_snd 0 t.paths.toList, List.map_map]
  rfl

/-- It has for each number the path that is found at it. -/
theorem path_of_mem_toList (ht : t.size ≤ 2 ^ 31) (h : (id, p) ∈ t.toList) :
  t.path id = some p
  := by
  rw [toList, List.mem_map] at h
  obtain ⟨⟨q, i⟩, hi, heq⟩ := h
  obtain ⟨rfl, rfl⟩ := Prod.mk.inj heq
  apply path_ofIndex ht
  rw [← Array.getElem?_toList]
  apply List.mem_zipIdx_iff_getElem?.mp hi

/-- While there are numbers for all places, the numbers in use are those below the number of places
that were asked for, and a path is found at a number exactly if it leads to the place whose spelling
is kept there. A place has for its number how many others were seen before it, and keeps the
spelling it was first seen with. A path that is asked for is answered with its number; one that has
a number already changes nothing. No later step takes a number or a spelling back, the list of all
files is in the order of the numbers, and no other number has a path. -/
theorem run_numbers_in_order (steps : List Step)
    (hfew : ((sights steps).map Path.components).dedup.length ≤ 2 ^ 31) :
  let t := (run steps).1
  let places := ((sights steps).map Path.components).dedup.length
  (t.step .size).2 = .count places
    ∧ (∀ id, (∃ p, t.lookup p = some id) ↔ ∃ i < places, id = FileId.ofIndex i)
    ∧ (∀ p id, t.lookup p = some id ↔ ∃ q, t.path id = some q ∧ q.Same p)
    ∧ (∀ before p after, sights steps = before ++ p :: after → (∀ q ∈ before, ¬ q.Same p) →
        let id := FileId.ofIndex (before.map Path.components).dedup.length
        t.lookup p = some id ∧ t.path id = some p)
    ∧ (∀ (k : Nat) p, steps[k]? = some (.intern p) →
        ∃ id, (run steps).2[k]? = some (.file (some id)) ∧ t.lookup p = some id)
    ∧ (∀ p id, t.lookup p = some id → t.step (.intern p) = (t, .file (some id)))
    ∧ (∀ later, let t' := (run (steps ++ later)).1
        (∀ p id, t.lookup p = some id → t'.lookup p = some id)
          ∧ ∀ id p, t.path id = some p → t'.path id = some p)
    ∧ (∃ files, (t.step .toList).2 = .files files
        ∧ files.map Prod.fst = (List.range places).map FileId.ofIndex
        ∧ ∀ id p, (id, p) ∈ files → t.path id = some p)
    ∧ ∀ id, ¬ id.isKnown ∨ places ≤ id.place → t.path id = none
  := by
  intro t places
  have hfit : Fit (sights steps) := by
    rw [Fit, Path.length_firsts]
    apply hfew
  have ht : t = listing (sights steps) := fst_run hfit
  have hsize : t.size = places := by
    rw [ht]
    apply size_listing
  constructor
  · rw [step, hsize]
  constructor
  · intro id
    rw [← hsize, ht]
    apply exists_lookup_listing_iff
  constructor
  · intro p id
    rw [ht]
    apply lookup_listing_iff hfit
  constructor
  · intro before p after hsights hnew
    rw [ht]
    apply listing_first hfit hsights hnew
  constructor
  · intro k p hk
    use number (sights steps) p, snd_run_intern hfit hk
    rw [ht]
    apply lookup_listing
    rw [sights, List.mem_filterMap]
    use .intern p, List.mem_of_getElem? hk
    rfl
  constructor
  · intro p id hp
    rw [step, intern_of_lookup hp]
  constructor
  · intro later
    have h : t.Keeps (run (steps ++ later)).1 := by
      rw [run, runSteps_append]
      apply keeps_run
    exact ⟨h.lookup, h.path⟩
  constructor
  · use t.toList, rfl
    rw [← hsize]
    use map_fst_toList t
    intro id p
    apply path_of_mem_toList
    rw [hsize]
    apply hfew
  · intro id hid
    rw [path_eq_none_iff, hsize]
    rintro ⟨hknown, hlt⟩
    rcases hid with hid | hid
    · apply hid hknown
    · apply Nat.not_lt.mpr hid hlt

/-- Four paths that lead to three places, and a question in between. -/
def respelled : List Step :=
  [.intern ⟨"src//a"⟩, .intern ⟨"./src/a"⟩, .lookup ⟨"b"⟩, .intern ⟨"src/a/."⟩, .intern ⟨"b"⟩]

theorem respelled_numbers_in_order :
  ((sights respelled).map Path.components).dedup.length ≤ 2 ^ 31
    ∧ (run respelled).1.lookup ⟨"b"⟩ = some (FileId.ofIndex 2)
    ∧ (run respelled).1.path (FileId.ofIndex 2) = some ⟨"b"⟩
  := by
  have hfew : ((sights respelled).map Path.components).dedup.length ≤ 2 ^ 31 := by decide
  use hfew
  let before : List Path := [⟨"src//a"⟩, ⟨"./src/a"⟩, ⟨"src/a/."⟩]
  have hbefore : (before.map Path.components).dedup.length = 2 := by decide
  rw [← hbefore]
  apply (run_numbers_in_order respelled hfew).2.2.2.1 _ ⟨"b"⟩ [] rfl
  decide

end Interner

end Recompile
