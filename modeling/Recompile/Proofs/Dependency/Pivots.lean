import Mathlib.Tactic.ByContra
import Mathlib.Tactic.SplitIfs
import Std.Data.TreeSet.Lemmas
import Recompile.Dependency.Closure
import Recompile.Proofs.Dependency.DependsOn
import Recompile.Proofs.Dependency.Key

/-!
# Closing by pivots

After the pivots below `k`, two different files are joined exactly if a path leads from one to
the other through files below `k`; no pivot joins a file to itself. After all pivots the edges
are the dependencies, direct or not, of the edges at the start (`edge_closure`).
-/

namespace Recompile

namespace EdgeSet

variable {E : EdgeSet} {n m k i j a b : Nat}

/-! ### Edges between places -/

/-- Different pairs of places have different keys. -/
theorem keyAt_inj (hi : i < 2 ^ 31) (hj : j < 2 ^ 31) (ha : a < 2 ^ 31) (hb : b < 2 ^ 31) :
  keyAt i j = keyAt a b ↔ a = i ∧ b = j
  := by
  constructor
  · intro h
    obtain ⟨hai, hbj⟩ := EdgeKey.pack_inj.mp h
    have hai' := congrArg FileId.place hai
    have hbj' := congrArg FileId.place hbj
    rw [FileId.place_ofIndex hi, FileId.place_ofIndex ha] at hai'
    rw [FileId.place_ofIndex hj, FileId.place_ofIndex hb] at hbj'
    use hai'.symm, hbj'.symm
  · rintro ⟨rfl, rfl⟩
    rfl

/-- A new edge joins its two ends, and no others. -/
theorem joins_insert (hi : i < 2 ^ 31) (hj : j < 2 ^ 31) (ha : a < 2 ^ 31) (hb : b < 2 ^ 31) :
  joins (E.insert (keyAt i j)) a b ↔ joins E a b ∨ a = i ∧ b = j
  := by
  rw [joins, Std.TreeSet.contains_insert, Bool.or_eq_true, beq_iff_eq, Std.compare_eq_iff_eq,
    keyAt_inj hi hj ha hb]
  apply or_comm

/-! ### One pivot -/

/-- The pivot `k` seen from `i`, as far as the file `j` goes. -/
def closeEntry (k i j : Nat) (E : EdgeSet) : EdgeSet :=
  if i ≠ j && E.joins k j && !E.joins i j then E.insert (keyAt i j) else E

/-- One entry of a row joins `i` to `j` if `k` is joined to `j`, and leaves all other pairs as they
are. -/
theorem joins_closeEntry (hi : i < 2 ^ 31) (hj : j < 2 ^ 31) (ha : a < 2 ^ 31)
    (hb : b < 2 ^ 31) :
  joins (closeEntry k i j E) a b ↔ joins E a b ∨ a = i ∧ b = j ∧ i ≠ j ∧ joins E k j
  := by
  rw [closeEntry]
  split_ifs with h
  · rw [joins_insert hi hj ha hb]
    simp only [ne_eq, decide_not, Bool.and_eq_true, Bool.not_eq_true', decide_eq_false_iff_not]
      at h
    simp [h]
  · constructor
    · apply Or.inl
    · rintro (hE | ⟨rfl, rfl, hij, hkj⟩)
      · apply hE
      · by_contra hE
        apply h
        simpa [hij, hkj] using hE

theorem closeRow_succ :
  closeRow (n + 1) k i E = closeEntry k i n (closeRow n k i E)
  := by
  rw [closeRow, List.range_succ, List.foldl_append]
  rfl

/-- Row `i` takes over row `k`, which stays as it is. -/
theorem joins_closeRow (hn : n ≤ 2 ^ 31) (hk : k < 2 ^ 31) (hi : i < 2 ^ 31) (hik : i ≠ k)
    (ha : a < 2 ^ 31) (hb : b < 2 ^ 31) :
  joins (closeRow n k i E) a b ↔ joins E a b ∨ a = i ∧ b < n ∧ i ≠ b ∧ joins E k b
  := by
  induction n generalizing a b with
  | zero => simp [closeRow]
  | succ n ih =>
      have row : joins (closeRow n k i E) k n ↔ joins E k n := by
        rw [ih (by omega) hk (by omega)]
        simp [hik.symm]
      rw [closeRow_succ, joins_closeEntry hi (by omega) ha hb, ih (by omega) ha hb, row, or_assoc]
      apply or_congr_right
      constructor
      · rintro (⟨rfl, hbn, h⟩ | ⟨rfl, rfl, h⟩)
        · use rfl, by omega, h.1, h.2
        · use rfl, by omega, h.1, h.2
      · rintro ⟨rfl, hbn, hab, hkb⟩
        by_cases hb' : b = n
        · subst hb'
          right
          use rfl, rfl, hab, hkb
        · left
          use rfl, by omega, hab, hkb

/-- The pivot `k` seen from the files below `m`. -/
def closeRows (n k m : Nat) (E : EdgeSet) : EdgeSet :=
  (List.range m).foldl
    (fun edges i => if i = k || !edges.joins i k then edges else closeRow n k i edges) E

theorem closeRows_succ :
  closeRows n k (m + 1) E
    = if m = k || !(closeRows n k m E).joins m k then closeRows n k m E
      else closeRow n k m (closeRows n k m E)
  := by
  rw [closeRows, List.range_succ, List.foldl_append]
  rfl

/-- Each row that is joined to `k` takes over row `k`. Rows not reached yet, and row `k`
itself, are as they were, so the order of the rows does not matter. -/
theorem joins_closeRows (hn : n ≤ 2 ^ 31) (hk : k < n) (hm : m ≤ n) (ha : a < n) (hb : b < n) :
  joins (closeRows n k m E) a b
    ↔ joins E a b ∨ a < m ∧ a ≠ k ∧ a ≠ b ∧ joins E a k ∧ joins E k b
  := by
  induction m generalizing a b with
  | zero => simp [closeRows]
  | succ m ih =>
      have column : joins (closeRows n k m E) m k ↔ joins E m k := by
        rw [ih (by omega) (by omega) hk]
        simp
      have row : joins (closeRows n k m E) k b ↔ joins E k b := by
        rw [ih (by omega) hk hb]
        simp
      rw [closeRows_succ]
      split_ifs with h
      · rw [ih (by omega) ha hb]
        apply or_congr_right
        constructor
        · rintro ⟨ham, h'⟩
          use by omega, h'.1, h'.2.1, h'.2.2.1, h'.2.2.2
        · rintro ⟨ham, hak, hab, hE, h'⟩
          by_cases ham' : a = m
          · subst ham'
            rw [Bool.or_eq_true, decide_eq_true_iff, Bool.not_eq_true', ← Bool.not_eq_true,
              column] at h
            apply absurd hE (h.resolve_left hak)
          · use by omega, hak, hab, hE, h'
      · rw [Bool.or_eq_true, decide_eq_true_iff, Bool.not_eq_true', ← Bool.not_eq_true, column,
          not_or, not_not] at h
        rw [joins_closeRow hn (by omega) (by omega) h.1 (by omega) (by omega), row,
          ih (by omega) ha hb, or_assoc]
        apply or_congr_right
        constructor
        · rintro (⟨ham, h'⟩ | ⟨rfl, -, h'⟩)
          · use by omega, h'.1, h'.2.1, h'.2.2.1, h'.2.2.2
          · use by omega, h.1, h'.1, h.2, h'.2
        · rintro ⟨ham, hak, hab, hE, h'⟩
          by_cases ham' : a = m
          · subst ham'
            right
            use rfl, hb, hab, h'
          · left
            use by omega, hak, hab, hE, h'

/-- After the pivot `k` two different places are joined if they were before, or if the first was
joined to `k` and `k` to the second. Row and column `k` stay as they are. -/
theorem joins_closePivot (hn : n ≤ 2 ^ 31) (hk : k < n) (ha : a < n) (hb : b < n) :
  joins (closePivot n k E) a b
    ↔ joins E a b ∨ a ≠ k ∧ a ≠ b ∧ joins E a k ∧ joins E k b
  := by
  have h := joins_closeRows (E := E) hn hk (Nat.le_refl n) ha hb
  simp only [ha, true_and] at h
  apply h

/-! ### All pivots -/

/-- A path of edges from `a` to `b` whose inner places lie below `k`. -/
inductive PathBelow (E : EdgeSet) (k : Nat) : Nat → Nat → Prop where
  | edge {a b : Nat} (h : joins E a b) : PathBelow E k a b
  | via {a c b : Nat} (hc : c < k) (h : PathBelow E k a c) (h' : PathBelow E k c b) :
      PathBelow E k a b

/-- A path without inner places is an edge. -/
theorem pathBelow_zero :
  PathBelow E 0 a b ↔ joins E a b
  := by
  constructor
  · rintro (h | ⟨hc, -, -⟩)
    · apply h
    · apply absurd hc (Nat.not_lt_zero _)
  · apply PathBelow.edge

/-- A path through places below `k` goes through places below any larger number. -/
theorem PathBelow.mono (hkm : k ≤ m) (h : PathBelow E k a b) :
  PathBelow E m a b
  := by
  induction h with
  | edge h => apply PathBelow.edge h
  | via hc _ _ ih ih' => apply PathBelow.via (by omega) ih ih'

/-- A path through files below `k + 1` avoids `k` or can be cut at its first and its last visit
of `k`. -/
theorem pathBelow_succ :
  PathBelow E (k + 1) a b ↔ PathBelow E k a b ∨ PathBelow E k a k ∧ PathBelow E k k b
  := by
  constructor
  · intro h
    induction h with
    | edge h =>
        left
        apply PathBelow.edge h
    | @via a c b hc _ _ ih ih' =>
        by_cases hck : c = k
        · subst hck
          right
          use ih.elim id And.left, ih'.elim id And.right
        · have hc' : c < k := by omega
          rcases ih with h | ⟨h₁, h₂⟩
          · rcases ih' with h' | ⟨h₁', h₂'⟩
            · left
              apply PathBelow.via hc' h h'
            · right
              use PathBelow.via hc' h h₁', h₂'
          · right
            use h₁
            rcases ih' with h' | ⟨-, h₂'⟩
            · apply PathBelow.via hc' h₂ h'
            · apply h₂'
  · rintro (h | ⟨h, h'⟩)
    · apply h.mono (Nat.le_succ k)
    · apply PathBelow.via (Nat.lt_succ_self k) (h.mono (Nat.le_succ k)) (h'.mono (Nat.le_succ k))

theorem closePivots_succ :
  closePivots n E (k + 1) = closePivot n k (closePivots n E k)
  := by
  rw [closePivots, List.range_succ, List.foldl_append]
  rfl

/-- After the pivots below `k`, different places are joined by the paths through places
below `k`, and a place is joined to itself as it was at the start. -/
theorem joins_closePivots (hn : n ≤ 2 ^ 31) (hk : k ≤ n) (ha : a < n) (hb : b < n) :
  joins (closePivots n E k) a b ↔ a ≠ b ∧ PathBelow E k a b ∨ a = b ∧ joins E a a
  := by
  induction k generalizing a b with
  | zero =>
      rw [pathBelow_zero]
      change joins E a b ↔ _
      by_cases hab : a = b
      · subst hab
        simp
      · simp [hab]
  | succ k ih =>
      have old {a b : Nat} (ha : a < n) (hb : b < n) := ih (by omega) ha hb
      rw [closePivots_succ, joins_closePivot hn (by omega) ha hb, old ha hb]
      by_cases hab : a = b
      · subst hab
        simp
      · have reach {a b : Nat} (ha : a < n) (hb : b < n)
            (h : joins (closePivots n E k) a b) : PathBelow E k a b := by
          rcases (old ha hb).mp h with ⟨-, h'⟩ | ⟨rfl, h'⟩
          · apply h'
          · apply PathBelow.edge h'
        simp only [hab, ne_eq, not_false_eq_true, true_and, false_and, or_false]
        rw [pathBelow_succ]
        constructor
        · rintro (h | ⟨-, h, h'⟩)
          · left
            apply h
          · right
            use reach ha (by omega) h, reach (by omega) hb h'
        · rintro (h | ⟨h, h'⟩)
          · left
            apply h
          · by_cases hak : a = k
            · subst hak
              left
              apply h'
            · by_cases hbk : b = k
              · subst hbk
                left
                apply h
              · right
                use hak, (old ha (by omega)).mpr (Or.inl ⟨hak, h⟩)
                apply (old (by omega) hb).mpr (Or.inl ⟨Ne.symm hbk, h'⟩)

/-- After all pivots, different places are joined by the paths through any places. -/
theorem joins_closure (hn : n ≤ 2 ^ 31) (ha : a < n) (hb : b < n) :
  joins (E.closure n) a b ↔ a ≠ b ∧ PathBelow E n a b ∨ a = b ∧ joins E a a
  := joins_closePivots hn (Nat.le_refl n) ha hb

/-! ### Edges between files -/

/-- The set has an edge from `x` to `y`. -/
def Edge (E : EdgeSet) (x y : FileId) : Prop := EdgeKey.pack x y ∈ E

theorem edge_ofIndex :
  Edge E (FileId.ofIndex a) (FileId.ofIndex b) ↔ joins E a b
  := Std.TreeSet.mem_iff_contains

/-- All edges are between places below `n`. -/
def Within (E : EdgeSet) (n : Nat) : Prop :=
  ∀ key ∈ E, ∃ i < n, ∃ j < n, key = keyAt i j

theorem Within.mono (hE : Within E n) (hnm : n ≤ m) :
  Within E m
  := by
  intro key hkey
  obtain ⟨i, hi, j, hj, rfl⟩ := hE key hkey
  use i, by omega, j, by omega

/-- A new edge between places below `n` leaves all edges there. -/
theorem Within.insert (hE : Within E n) (hi : i < n) (hj : j < n) :
  Within (E.insert (keyAt i j)) n
  := by
  intro key hkey
  rcases Std.TreeSet.mem_insert.mp hkey with h | h
  · use i, hi, j, hj
    symm
    apply Std.compare_eq_iff_eq.mp h
  · apply hE key h

/-- The key of two known files is that of their places. -/
theorem keyAt_place {x y : FileId} (hx : x.isKnown) (hy : y.isKnown) :
  keyAt x.place y.place = EdgeKey.pack x y
  := by
  rw [keyAt, FileId.ofIndex_place hx, FileId.ofIndex_place hy]

theorem Within.closeRow (hE : Within E n) (hi : i < n) :
  Within (closeRow n k i E) n
  := by
  apply List.foldlRecOn (motive := fun E => Within E n) _ _ hE
  intro E hE j hj
  split_ifs
  · apply hE.insert hi (List.mem_range.mp hj)
  · apply hE

theorem Within.closePivot (hE : Within E n) :
  Within (closePivot n k E) n
  := by
  apply List.foldlRecOn (motive := fun E => Within E n) _ _ hE
  intro E hE i hi
  split_ifs
  · apply hE
  · apply hE.closeRow (List.mem_range.mp hi)

/-- No round leads out of the places below `n`. -/
theorem Within.closePivots (hE : Within E n) :
  Within (closePivots n E k) n
  := by
  apply List.foldlRecOn (motive := fun E => Within E n) _ _ hE
  intro E hE k _
  apply hE.closePivot

theorem Within.closure (hE : Within E n) :
  Within (E.closure n) n
  := hE.closePivots

/-- An edge between places below `n` has two known ends below `n`. -/
theorem Within.edge (hE : Within E n) (hn : n ≤ 2 ^ 31) {x y : FileId} (h : Edge E x y) :
  (x.isKnown ∧ x.place < n) ∧ y.isKnown ∧ y.place < n
  := by
  obtain ⟨i, hi, j, hj, hkey⟩ := hE _ h
  obtain ⟨rfl, rfl⟩ := EdgeKey.pack_inj.mp hkey
  rw [FileId.place_ofIndex (by omega), FileId.place_ofIndex (by omega)]
  use ⟨FileId.isKnown_ofIndex (by omega), hi⟩, FileId.isKnown_ofIndex (by omega)

/-- A path of edges between places below `n` has two known ends below `n`. -/
theorem Within.transGen (hE : Within E n) (hn : n ≤ 2 ^ 31) {x y : FileId}
    (h : Relation.TransGen (Edge E) x y) :
  (x.isKnown ∧ x.place < n) ∧ y.isKnown ∧ y.place < n
  := by
  induction h with
  | single h => apply hE.edge hn h
  | tail _ h ih => exact ⟨ih.1, (hE.edge hn h).2⟩

/-- A path through places is a path of edges between their files. -/
theorem PathBelow.transGen (h : PathBelow E k a b) :
  Relation.TransGen (Edge E) (FileId.ofIndex a) (FileId.ofIndex b)
  := by
  induction h with
  | edge h => apply Relation.TransGen.single (edge_ofIndex.mpr h)
  | via _ _ _ ih ih' => apply ih.trans ih'

/-- If all edges are between places below `n`, a path of edges goes through such places. -/
theorem Within.pathBelow (hE : Within E n) (hn : n ≤ 2 ^ 31) {x y : FileId}
    (h : Relation.TransGen (Edge E) x y) :
  PathBelow E n x.place y.place
  := by
  have step {x y : FileId} (h : Edge E x y) : PathBelow E n x.place y.place := by
    obtain ⟨⟨hx, -⟩, hy, -⟩ := hE.edge hn h
    apply PathBelow.edge
    rw [← edge_ofIndex, FileId.ofIndex_place hx, FileId.ofIndex_place hy]
    apply h
  induction h with
  | single h => apply step h
  | tail _ h ih => apply PathBelow.via (hE.edge hn h).1.2 ih (step h)

/-- The closure has the dependencies, direct or not, of the edges at the start. -/
theorem edge_closure (hn : n ≤ 2 ^ 31) (hE : Within E n) {x y : FileId} :
  Edge (E.closure n) x y ↔ DependsOn (Edge E) x y
  := by
  by_cases hxy : (x.isKnown ∧ x.place < n) ∧ y.isKnown ∧ y.place < n
  · obtain ⟨⟨hx, hxn⟩, hy, hyn⟩ := hxy
    rw [← FileId.ofIndex_place hx, ← FileId.ofIndex_place hy, edge_ofIndex,
      joins_closure hn hxn hyn]
    by_cases h : x.place = y.place
    · rw [h, dependsOn_self, edge_ofIndex]
      simp
    · have h' : FileId.ofIndex x.place ≠ FileId.ofIndex y.place := by
        rw [FileId.ofIndex_place hx, FileId.ofIndex_place hy]
        rintro rfl
        apply h rfl
      rw [dependsOn_iff_of_ne h']
      simp only [h, ne_eq, not_false_eq_true, true_and, false_and, or_false]
      constructor
      · apply PathBelow.transGen
      · rw [FileId.ofIndex_place hx, FileId.ofIndex_place hy]
        apply hE.pathBelow hn
  · constructor
    · intro h
      apply absurd (hE.closure.edge hn h) hxy
    · intro h
      apply absurd (hE.transGen hn h.transGen) hxy

end EdgeSet

end Recompile
