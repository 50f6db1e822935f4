import Mathlib.Algebra.Group.Nat.Defs
import Mathlib.Data.List.Sort
import Recompile.FileId

/-!
# Places of files

A known file is the same as its place in a dense table, a number below `2 ^ 31`. The order of
known files is the order of their places.
-/

namespace Recompile

namespace FileId

instance : LT FileId := ⟨fun a b => a.val < b.val⟩

instance (a b : FileId) : Decidable (a < b) := inferInstanceAs (Decidable (a.val < b.val))

/-- The place of a file, `0` for a file that is not known. -/
def place (id : FileId) : Nat := id.val.toNatClampNeg

theorem place_lt (id : FileId) :
  id.place < 2 ^ 31
  := Int32.toNatClampNeg_lt _

/-- A file is known if its number is not negative. -/
theorem isKnown_iff {id : FileId} :
  id.isKnown ↔ 0 ≤ id.val
  := decide_eq_true_iff

theorem index_of_isKnown {id : FileId} (h : id.isKnown) :
  id.index = some id.place
  := if_pos h

/-- A file has an index exactly if it is known, and this is its place. -/
theorem index_eq_some_iff {id : FileId} {i : Nat} :
  id.index = some i ↔ id.isKnown ∧ id.place = i
  := by
  simp [index, place]

/-- Every place below `2 ^ 31` is that of a known file. -/
theorem isKnown_ofIndex {i : Nat} (h : i < 2 ^ 31) :
  (ofIndex i).isKnown
  := by
  rw [isKnown_iff]
  apply (Int32.ofNat_le_iff_le (by decide) h).mpr
  apply Nat.zero_le

theorem place_ofIndex {i : Nat} (h : i < 2 ^ 31) :
  (ofIndex i).place = i
  := Int32.toNatClampNeg_ofNat_of_lt h

/-- A known file is told by its place. -/
theorem ofIndex_place {id : FileId} (h : id.isKnown) :
  ofIndex id.place = id
  := congrArg FileId.mk (Int32.ofNat_toNatClampNeg _ (isKnown_iff.mp h))

/-- Known files with the same place are the same. -/
theorem eq_of_place_eq {a b : FileId} (ha : a.isKnown) (hb : b.isKnown)
    (h : a.place = b.place) :
  a = b
  := by
  rw [← ofIndex_place ha, h, ofIndex_place hb]

/-- Known files are ordered as their places are. -/
theorem lt_iff_place_lt {a b : FileId} (ha : a.isKnown) (hb : b.isKnown) :
  a < b ↔ a.place < b.place
  := by
  have h := Int32.ofNat_lt_iff_lt a.place_lt b.place_lt
  rw [place, place, Int32.ofNat_toNatClampNeg _ (isKnown_iff.mp ha),
    Int32.ofNat_toNatClampNeg _ (isKnown_iff.mp hb)] at h
  apply h

instance : Std.Irrefl (· < · : FileId → FileId → Prop) := ⟨fun _ => Int32.lt_irrefl⟩

instance : Std.Antisymm (· < · : FileId → FileId → Prop) :=
  ⟨fun _ _ h h' => absurd h' (Int32.lt_asymm h)⟩

/-- A list of files in ascending order, each once. -/
abbrev Ascending (ids : List FileId) : Prop := ids.Pairwise (· < ·)

end FileId

end Recompile
