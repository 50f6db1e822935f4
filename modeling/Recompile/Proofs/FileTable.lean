import Mathlib.Data.List.Dedup
import Mathlib.Data.List.Perm.Subperm
import Mathlib.Data.List.Induction
import Mathlib.Tactic.ByContra
import Mathlib.Tactic.SplitIfs
import Mathlib.Tactic.Use
import Recompile.Interner
import Recompile.Proofs.Places

/-!
# The table of files

A table of files lists the places its paths lead to, each once and in the order in which they
were first seen (`Interner.Lists`). It finds the paths that lead to these places, and different
places have different numbers. Adding a path never changes the number of another.
-/

namespace Recompile

namespace Path

/-! ### Places in order of first sight -/

/-- The list with a path that leads to a new place. -/
def addNew (seen : List Path) (p : Path) : List Path :=
  if ∃ q ∈ seen, q.Same p then seen else seen ++ [p]

/-- The places of a list of paths, each once, with the spelling it was first seen with. -/
def firsts (ps : List Path) : List Path := ps.foldl addNew []

variable {ps qs : List Path} {p q : Path}

theorem firsts_concat :
  firsts (ps ++ [p]) = addNew (firsts ps) p
  := List.foldl_concat _ _ _ _

/-- The places of a list are those that its paths lead to. -/
theorem exists_same_firsts :
  (∃ q ∈ firsts ps, q.Same p) ↔ ∃ q ∈ ps, q.Same p
  := by
  induction ps using List.reverseRecOn with
  | nil => rfl
  | append_singleton ps r ih =>
      rw [firsts_concat, addNew]
      split_ifs with h
      · obtain ⟨q, hq, hqr⟩ := h
        rw [ih]
        constructor
        · rintro ⟨q, hq, hqp⟩
          use q, List.mem_append_left _ hq
        · rintro ⟨q', hq', hqp⟩
          rcases List.mem_append.mp hq' with hq' | hq'
          · use q'
          · obtain rfl := List.mem_singleton.mp hq'
            apply ih.mp
            use q, hq, hqr.trans hqp
      · simp only [List.mem_append, List.mem_singleton, or_and_right, exists_or, ih]

/-- Places are spelled as some path of the list spells them. -/
theorem mem_of_mem_firsts (h : p ∈ firsts ps) :
  p ∈ ps
  := by
  induction ps using List.reverseRecOn with
  | nil => cases h
  | append_singleton ps q ih =>
      rw [firsts_concat, addNew] at h
      split_ifs at h
      · apply List.mem_append_left _ (ih h)
      · rcases List.mem_append.mp h with h | h
        · apply List.mem_append_left _ (ih h)
        · apply List.mem_append_right _ h

/-- No two paths of the list lead to the same place. -/
theorem nodup_firsts (ps : List Path) :
  ((firsts ps).map components).Nodup
  := by
  induction ps using List.reverseRecOn with
  | nil => apply List.nodup_nil
  | append_singleton ps p ih =>
      rw [firsts_concat, addNew]
      split_ifs with h
      · apply ih
      · rw [List.map_append, List.nodup_append]
        use ih, List.nodup_singleton _
        intro c hc c' hc' hcc'
        obtain ⟨q, hq, rfl⟩ := List.mem_map.mp hc
        obtain rfl := List.mem_singleton.mp hc'
        apply h
        use q, hq, hcc'

/-- Later paths only add places to the list. -/
theorem prefix_firsts (ps qs : List Path) :
  firsts ps <+: firsts (ps ++ qs)
  := by
  induction qs using List.reverseRecOn with
  | nil => simp
  | append_singleton qs q ih =>
      rw [← List.append_assoc, firsts_concat, addNew]
      split_ifs
      · apply ih
      · apply ih.trans (List.prefix_append _ _)

/-- More paths lead to no fewer places. -/
theorem length_firsts_le_append (ps qs : List Path) :
  (firsts ps).length ≤ (firsts (ps ++ qs)).length
  := (prefix_firsts ps qs).length_le

/-- There are no more places in a part of a list of paths than there are in all of it. -/
theorem length_firsts_le (h : ∀ p ∈ ps, p ∈ qs) :
  (firsts ps).length ≤ (qs.map components).dedup.length
  := by
  rw [← List.length_map (f := components)]
  apply List.Subperm.length_le
  apply List.subperm_of_subset (nodup_firsts ps)
  intro c hc
  obtain ⟨p, hp, rfl⟩ := List.mem_map.mp hc
  obtain ⟨q, hq, hqp⟩ := exists_same_firsts.mp ⟨p, hp, Same.refl p⟩
  rw [List.mem_dedup, List.mem_map]
  use q, h q hq, hqp

/-- There are numbers for all places of a list of paths. -/
def Fit (ps : List Path) : Prop := (firsts ps).length ≤ 2 ^ 31

instance (ps : List Path) : Decidable (Fit ps) := inferInstanceAs (Decidable (_ ≤ _))

theorem Fit.of_append (h : Fit (ps ++ qs)) :
  Fit ps
  := Nat.le_trans (length_firsts_le_append ps qs) h

end Path

namespace Interner

variable {t t' : Interner} {ps : List Path} {p q : Path} {id : FileId}

/-! ### Looking up -/

/-- A path is looked up by the place it leads to. -/
theorem lookup_congr (h : p.Same q) :
  t.lookup p = t.lookup q
  := by
  have h' : p.components = q.components := h
  rw [lookup, lookup, h']

/-- Nothing is found for a path exactly if no path of the table leads to its place. -/
theorem lookup_eq_none_iff :
  t.lookup p = none ↔ ¬ ∃ q ∈ t.paths, q.Same p
  := by
  simp [lookup, Path.Same]

theorem fileId_eq_ok_iff :
  t.fileId p = .ok id ↔ t.lookup p = some id
  := by
  rw [fileId]
  cases t.lookup p with
  | none => simp
  | some id' => simp

/-- Asking for the number of a path is refused exactly if nothing is found for it. -/
theorem fileId_eq_error_iff :
  (∃ cause, t.fileId p = .error cause) ↔ t.lookup p = none
  := by
  rw [fileId]
  cases t.lookup p with
  | none => simp
  | some id' => simp

/-- What is found for a path is the position of a path that leads to the same place. -/
theorem place_of_lookup (h : t.lookup p = some id) :
  ∃ (i : Nat) (hi : i < t.paths.size), t.paths[i].Same p ∧ id = FileId.ofIndex i
  := by
  obtain ⟨i, hi, rfl⟩ := Option.map_eq_some_iff.mp h
  obtain ⟨hi, hp, -⟩ := Array.findIdx?_eq_some_iff_getElem.mp hi
  use i, hi, of_decide_eq_true hp

/-- What is found for a path is a known file, as long as there are numbers for all places. -/
theorem isKnown_of_lookup (ht : t.paths.size ≤ 2 ^ 31) (h : t.lookup p = some id) :
  id.isKnown
  := by
  obtain ⟨i, hi, -, rfl⟩ := place_of_lookup h
  apply FileId.isKnown_ofIndex
  omega

/-- Paths with the same number lead to the same place. -/
theorem same_of_lookup (ht : t.paths.size ≤ 2 ^ 31) (hp : t.lookup p = some id)
    (hq : t.lookup q = some id) :
  p.Same q
  := by
  obtain ⟨i, hi, hip, rfl⟩ := place_of_lookup hp
  obtain ⟨j, hj, hjq, hij⟩ := place_of_lookup hq
  have h := congrArg FileId.place hij
  rw [FileId.place_ofIndex (by omega), FileId.place_ofIndex (by omega)] at h
  subst h
  apply hip.symm.trans hjq

/-! ### Numbering -/

/-- The table of the places of a list of paths. -/
def Lists (t : Interner) (ps : List Path) : Prop := t.paths.toList = Path.firsts ps

/-- Every path keeps its number. -/
def Extends (t t' : Interner) : Prop := ∀ p id, t.lookup p = some id → t'.lookup p = some id

theorem Extends.refl (t : Interner) :
  t.Extends t
  := fun _ _ h => h

/-- In the table of a list nothing is found for a path exactly if no path of the list leads to its
place. -/
theorem Lists.lookup_eq_none_iff (ht : t.Lists ps) :
  t.lookup p = none ↔ ¬ ∃ q ∈ ps, q.Same p
  := by
  rw [Interner.lookup_eq_none_iff, ← Path.exists_same_firsts, ← ht]
  simp

theorem Lists.exists_of_lookup (ht : t.Lists ps) (h : t.lookup p = some id) :
  ∃ q ∈ ps, q.Same p
  := by
  by_contra hp
  rw [ht.lookup_eq_none_iff.mpr hp] at h
  cases h

/-- A path of the list is found. -/
theorem Lists.lookup_of_mem (ht : t.Lists ps) (hp : p ∈ ps) :
  ∃ id, t.lookup p = some id
  := by
  cases h : t.lookup p with
  | none =>
      cases ht.lookup_eq_none_iff.mp h ⟨p, hp, Path.Same.refl p⟩
  | some id => use id

/-- The numbers of listed paths are not changed by later ones. -/
theorem Lists.lookup_eq_of_extends (ht : t.Lists ps) (hext : t.Extends t') (hp : p ∈ ps) :
  t'.lookup p = t.lookup p
  := by
  obtain ⟨id, h⟩ := ht.lookup_of_mem hp
  rw [h, hext p id h]

/-- With a path at its end the table finds what it found before, and otherwise the new number for
the place of this path. -/
theorem lookup_push :
  lookup ⟨t.paths.push p⟩ q
    = (t.lookup q).or (if p.Same q then some (FileId.ofIndex t.paths.size) else none)
  := by
  rw [lookup, Array.findIdx?_push, Option.map_or, lookup]
  by_cases h : p.components = q.components
  · have h' : p.Same q := h
    rw [if_pos h', if_pos (decide_eq_true h)]
    rfl
  · have h' : ¬ p.Same q := h
    rw [if_neg h', if_neg (by simpa using h)]
    rfl

theorem extends_push (t : Interner) (p : Path) :
  t.Extends ⟨t.paths.push p⟩
  := by
  intro q id hq
  rw [lookup_push, hq]
  rfl

/-- A path that has a number is answered with it, and the table stays as it is. -/
theorem intern_of_lookup (h : t.lookup p = some id) :
  t.intern p = .ok (id, t)
  := by
  rw [intern, h]

/-- A path to a new place is given the next number. -/
theorem intern_of_new (hsize : t.paths.size < 2 ^ 31) (h : t.lookup p = none) :
  t.intern p = .ok (FileId.ofIndex t.paths.size, ⟨t.paths.push p⟩)
  := by
  have hmax : FileId.max.val.toNatClampNeg = 2 ^ 31 - 1 := rfl
  rw [intern, h]
  apply if_neg
  omega

/-- A path that has been given a number keeps it. -/
theorem extends_of_intern {id : FileId} (hintern : t.intern p = .ok (id, t')) :
  t.Extends t'
  := by
  rw [intern] at hintern
  split at hintern
  · cases hintern
    apply Extends.refl
  · split_ifs at hintern
    cases hintern
    apply extends_push

/-- A number that has been given stays with its path. -/
theorem path_of_intern {id' : FileId} (hintern : t.intern q = .ok (id', t'))
    (hp : t.path id = some p) :
  t'.path id = some p
  := by
  rw [intern] at hintern
  split at hintern
  · cases hintern
    apply hp
  · split_ifs at hintern
    cases hintern
    obtain ⟨i, hi, hpath⟩ := Option.bind_eq_some_iff.mp hp
    have hlt : i < t.paths.size := (Array.getElem?_eq_some_iff.mp hpath).1
    rw [path, hi, Option.bind_some, Array.getElem?_push_lt hlt, ← hpath]
    symm
    apply Array.getElem?_eq_getElem hlt

/-- While there are numbers left, a path is given one, and the other paths keep theirs. -/
theorem Lists.intern (ht : t.Lists ps) (p : Path)
    (hroom : (Path.firsts (ps ++ [p])).length ≤ 2 ^ 31) :
  ∃ id t', t.intern p = .ok (id, t') ∧ t'.Lists (ps ++ [p]) ∧ t'.lookup p = some id
    ∧ t.Extends t'
  := by
  cases h : t.lookup p with
  | some id =>
      use id, t, intern_of_lookup h
      constructor
      · rw [Lists, Path.firsts_concat, Path.addNew, if_pos, ht]
        apply Path.exists_same_firsts.mpr
        apply ht.exists_of_lookup h
      · use h
        apply Extends.refl
  | none =>
      have hnew : Path.firsts (ps ++ [p]) = Path.firsts ps ++ [p] := by
        rw [Path.firsts_concat, Path.addNew, if_neg]
        rw [Path.exists_same_firsts]
        apply ht.lookup_eq_none_iff.mp h
      have hsize : t.paths.size < 2 ^ 31 := by
        rw [hnew, ← ht, List.length_append, Array.length_toList] at hroom
        apply hroom
      use FileId.ofIndex t.paths.size, ⟨t.paths.push p⟩, intern_of_new hsize h
      constructor
      · rw [Lists, hnew, Array.toList_push, ht]
      constructor
      · rw [lookup_push, h, if_pos (Path.Same.refl p)]
        rfl
      · apply extends_push

/-! ### The table of a list of paths -/

/-- The table in which the paths of a list have been numbered, one after another. -/
def listing (ps : List Path) : Interner := ⟨(Path.firsts ps).toArray⟩

theorem lists_listing (ps : List Path) :
  (listing ps).Lists ps
  := rfl

/-- A table is told by the list whose places it has. -/
theorem Lists.eq_listing (ht : t.Lists ps) :
  t = listing ps
  := congrArg Interner.mk (Array.toList_inj.mp ht)

/-- One more path is added to the table if it leads to a new place. -/
theorem listing_concat (ps : List Path) (p : Path) :
  listing (ps ++ [p])
    = if (listing ps).lookup p = none then ⟨(listing ps).paths.push p⟩ else listing ps
  := by
  have hnew : (listing ps).lookup p = none ↔ ¬ ∃ q ∈ Path.firsts ps, q.Same p := by
    rw [(lists_listing ps).lookup_eq_none_iff, Path.exists_same_firsts]
  rw [listing, Path.firsts_concat, Path.addNew]
  split_ifs with hold h h
  · cases hnew.mp h hold
  · rfl
  · rw [listing, List.push_toArray]
  · cases h (hnew.mpr hold)

/-- The paths of a list keep their numbers when others come after them. -/
theorem extends_listing (ps qs : List Path) :
  (listing ps).Extends (listing (ps ++ qs))
  := by
  induction qs using List.reverseRecOn with
  | nil =>
      rw [List.append_nil]
      apply Extends.refl
  | append_singleton qs q ih =>
      intro p id hp
      rw [← List.append_assoc, listing_concat]
      split_ifs
      · apply extends_push _ _ _ _ (ih p id hp)
      · apply ih p id hp

/-- The number of a path in the table of a list of paths. -/
def number (ps : List Path) (p : Path) : FileId := ((listing ps).lookup p).getD .unknown

/-- A path of the list is found under its number. -/
theorem lookup_listing (hp : p ∈ ps) :
  (listing ps).lookup p = some (number ps p)
  := by
  obtain ⟨id, h⟩ := (lists_listing ps).lookup_of_mem hp
  rw [number, h, Option.getD_some]

/-- The number of a listed path is not changed by later paths. -/
theorem number_eq_of_first (hps : ps <+: qs) (hp : p ∈ ps) :
  number qs p = number ps p
  := by
  obtain ⟨rest, rfl⟩ := hps
  rw [number, (lists_listing ps).lookup_eq_of_extends (extends_listing ps rest) hp, number]

/-- A path of the list has a number, if there are numbers for all its places. -/
theorem isKnown_number (hfit : Path.Fit ps) (hps : ps <+: qs) (hp : p ∈ ps) :
  (number qs p).isKnown
  := by
  rw [number_eq_of_first hps hp]
  apply isKnown_of_lookup (t := listing ps) hfit (lookup_listing hp)

/-- The place that comes first in a list of paths at some position has that position for its
number. -/
theorem lookup_of_firsts {i : Nat} (hi : (Path.firsts ps)[i]? = some p) :
  (listing ps).lookup p = some (FileId.ofIndex i)
  := by
  have hp : p ∈ Path.firsts ps := List.mem_of_getElem? hi
  obtain ⟨q, hq, hqp⟩ := Path.exists_same_firsts.mp ⟨p, hp, Path.Same.refl p⟩
  rw [← lookup_congr hqp, lookup_listing hq]
  obtain ⟨j, hj, hjq, hnumber⟩ := place_of_lookup (lookup_listing hq)
  have hj' : (Path.firsts ps)[j]? = some ((listing ps).paths[j]) := List.getElem?_eq_getElem hj
  have hlt : i < ((Path.firsts ps).map Path.components).length := by
    rw [List.length_map]
    apply (List.getElem?_eq_some_iff.mp hi).1
  have hij : i = j := by
    apply (List.getElem?_inj hlt (Path.nodup_firsts ps)).mp
    rw [List.getElem?_map, hi, List.getElem?_map, hj', Option.map_some, Option.map_some]
    apply congrArg some (hjq.trans hqp).symm
  rw [hnumber, hij]

/-- A path is numbered unless all numbers are in use. -/
theorem intern_listing (hfit : Path.Fit ps) (p : Path) :
  (listing ps).intern p
    = if Path.Fit (ps ++ [p]) then .ok (number (ps ++ [p]) p, listing (ps ++ [p]))
      else .error (.fileLimit p)
  := by
  split_ifs with hroom
  · obtain ⟨id, t, hintern, ht, hid, -⟩ := (lists_listing ps).intern p hroom
    obtain rfl := ht.eq_listing
    rw [hintern, number, hid, Option.getD_some]
  · have hnew : (listing ps).lookup p = none := by
      by_contra h
      apply hroom
      have hsame := listing_concat ps p
      rw [if_neg h] at hsame
      rw [Path.Fit, ← lists_listing, hsame]
      apply hfit
    have hsize : 2 ^ 31 ≤ (listing ps).paths.size := by
      have hfull := Nat.lt_of_not_le hroom
      rw [← lists_listing, listing_concat, if_pos hnew, Array.length_toList,
        Array.size_push] at hfull
      omega
    have hmax : FileId.max.val.toNatClampNeg = 2 ^ 31 - 1 := rfl
    rw [intern, hnew]
    apply if_pos
    omega

end Interner

end Recompile
