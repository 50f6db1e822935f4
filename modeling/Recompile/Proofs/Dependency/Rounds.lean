import Recompile.Proofs.Dependency.Bound

/-!
# Closing round by round

Each pivot is one round of closing. After the rounds of the pivots below `k`, a set has the edges
it had at the start, and besides them those between two different places that a path through places
below `k` leads between (`LinkedBelow`). A round writes to the set it reads, but what it reads is
as it was when the round began (`joins_amidPivot`).
-/

namespace Recompile

namespace EdgeSet

variable {E : EdgeSet} {n k i j a b c : Nat} {via via' : List Nat}

/-! ### Paths through places -/

/-- The edges lead from `a` to `b` through the places of a list, in this order. -/
def Leads (E : EdgeSet) (a : Nat) (via : List Nat) (b : Nat) : Prop :=
  (a :: (via ++ [b])).IsChain fun i j => E.joins i j

/-- The edges lead from `a` to `b` through places below `k`. -/
def LinkedBelow (E : EdgeSet) (k a b : Nat) : Prop :=
  ∃ via, (∀ c ∈ via, c < k) ∧ E.Leads a via b

theorem leads_nil :
  E.Leads a [] b ↔ joins E a b
  := by
  simp [Leads]

theorem leads_cons :
  E.Leads a (c :: via) b ↔ joins E a c ∧ E.Leads c via b
  := List.isChain_cons_cons

/-- Two paths that meet make one. -/
theorem Leads.append (h : E.Leads a via c) (h' : E.Leads c via' b) :
  E.Leads a (via ++ c :: via') b
  := by
  induction via generalizing a with
  | nil => apply leads_cons.mpr ⟨leads_nil.mp h, h'⟩
  | cons x via ih =>
      obtain ⟨hax, h⟩ := leads_cons.mp h
      apply leads_cons.mpr ⟨hax, ih h⟩

/-- A path can be entered at any place on it. -/
theorem Leads.enter (h : E.Leads a (via ++ c :: via') b) :
  E.Leads c via' b
  := by
  induction via generalizing a with
  | nil => apply (leads_cons.mp h).2
  | cons x via ih => apply ih (leads_cons.mp h).2

/-- Without its circles a path visits no place twice. -/
theorem Leads.exists_nodup (hab : a ≠ b) (h : E.Leads a via b) :
  ∃ via', (∀ c ∈ via', c ∈ via) ∧ (a :: (via' ++ [b])).Nodup ∧ E.Leads a via' b
  := by
  induction via generalizing a with
  | nil =>
      use []
      simp [hab, h]
  | cons c via ih =>
      obtain ⟨hac, h⟩ := leads_cons.mp h
      by_cases hcb : c = b
      · subst hcb
        use []
        simp [hab, leads_nil, hac]
      · obtain ⟨via', hsub, hnodup, h'⟩ := ih hcb h
        by_cases ha : a ∈ c :: via'
        · -- The path comes back to `a`, and can be entered there.
          rcases List.mem_cons.mp ha with rfl | ha
          · use via', fun x hx => List.mem_cons_of_mem _ (hsub x hx)
          · obtain ⟨s, t, rfl⟩ := List.append_of_mem ha
            use t
            constructor
            · intro x hx
              apply List.mem_cons_of_mem
              apply hsub
              simp [hx]
            constructor
            · rw [List.append_assoc, ← List.cons_append] at hnodup
              apply hnodup.of_append_right
            · apply h'.enter
        · use c :: via'
          constructor
          · intro x hx
            rcases List.mem_cons.mp hx with rfl | hx
            · apply List.mem_cons_self
            · apply List.mem_cons_of_mem _ (hsub x hx)
          constructor
          · rw [List.nodup_cons]
            constructor
            · intro h
              rcases List.mem_append.mp h with h | h
              · apply ha h
              · apply hab (List.mem_singleton.mp h)
            · apply hnodup
          · apply leads_cons.mpr ⟨hac, h'⟩

/-- The paths that are cut at their inner places are those through lists of places. -/
theorem pathBelow_iff_linkedBelow :
  PathBelow E k a b ↔ E.LinkedBelow k a b
  := by
  constructor
  · intro h
    induction h with
    | edge h =>
        use []
        simp [leads_nil, h]
    | @via a c b hc _ _ ih ih' =>
        obtain ⟨via, hvia, h⟩ := ih
        obtain ⟨via', hvia', h'⟩ := ih'
        use via ++ c :: via'
        constructor
        · simp only [List.mem_append, List.mem_cons]
          rintro x (hx | rfl | hx)
          · apply hvia x hx
          · apply hc
          · apply hvia' x hx
        · apply h.append h'
  · rintro ⟨via, hvia, h⟩
    induction via generalizing a with
    | nil => apply PathBelow.edge (leads_nil.mp h)
    | cons c via ih =>
        obtain ⟨hac, h⟩ := leads_cons.mp h
        apply PathBelow.via (hvia c List.mem_cons_self) (PathBelow.edge hac)
        apply ih (fun x hx => hvia x (List.mem_cons_of_mem c hx)) h

/-- It makes no difference if only paths are counted that visit no place twice. -/
theorem linkedBelow_iff_nodup (hab : a ≠ b) :
  E.LinkedBelow k a b
    ↔ ∃ via, (∀ c ∈ via, c < k) ∧ (a :: (via ++ [b])).Nodup ∧ E.Leads a via b
  := by
  constructor
  · rintro ⟨via, hvia, h⟩
    obtain ⟨via', hsub, hnodup, h'⟩ := h.exists_nodup hab
    use via', fun c hc => hvia c (hsub c hc)
  · rintro ⟨via, hvia, -, h⟩
    use via

/-! ### Rounds -/

/-- After the rounds of the pivots below `k` there are, besides the edges at the start, those
between different places that paths through places below `k` lead between. -/
theorem mem_closePivots_iff (hn : n ≤ 2 ^ 31) (hE : Within E n) (hk : k ≤ n) (key : EdgeKey) :
  key ∈ closePivots n E k
    ↔ key ∈ E ∨ ∃ i j, i < n ∧ j < n ∧ i ≠ j ∧ key = keyAt i j ∧ E.LinkedBelow k i j
  := by
  have mem_iff {F : EdgeSet} {i j : Nat} : keyAt i j ∈ F ↔ F.joins i j :=
    Std.TreeSet.mem_iff_contains
  have spec {i j : Nat} (hi : i < n) (hj : j < n) : joins (closePivots n E k) i j ↔ _ :=
    joins_closePivots hn hk hi hj
  simp only [pathBelow_iff_linkedBelow] at spec
  constructor
  · intro hkey
    obtain ⟨i, hi, j, hj, rfl⟩ := hE.closePivots key hkey
    rcases (spec hi hj).mp (mem_iff.mp hkey) with ⟨hij, h⟩ | ⟨rfl, h⟩
    · right
      use i, j
    · left
      apply mem_iff.mpr h
  · rintro (hkey | ⟨i, j, hi, hj, hij, rfl, h⟩)
    · obtain ⟨i, hi, j, hj, rfl⟩ := hE key hkey
      rw [mem_iff, spec hi hj]
      by_cases hij : i = j
      · subst hij
        right
        use rfl, mem_iff.mp hkey
      · left
        use hij, [], by simp, leads_nil.mpr (mem_iff.mp hkey)
    · rw [mem_iff, spec hi hj]
      apply Or.inl ⟨hij, h⟩

/-- The edges in the middle of the round of `k`: the pivot has been seen from the files below `i`,
and from `i` itself as far as the files below `j` go. -/
def amidPivot (n k i j : Nat) (edges : EdgeSet) : EdgeSet :=
  if i = k || !(closeRows n k i edges).joins i k then closeRows n k i edges
  else closeRow j k i (closeRows n k i edges)

/-- In the middle of a round there are, besides the edges at its start, those of the final result
that are due so far. -/
theorem joins_amidPivot (hn : n ≤ 2 ^ 31) (hk : k < n) (hi : i < n) (hj : j ≤ n) (ha : a < n)
    (hb : b < n) :
  joins (amidPivot n k i j E) a b
    ↔ joins E a b
      ∨ (a < i ∨ a = i ∧ b < j) ∧ a ≠ k ∧ a ≠ b ∧ joins E a k ∧ joins E k b
  := by
  have rows {a b : Nat} (ha : a < n) (hb : b < n) : joins (closeRows n k i E) a b ↔ _ :=
    joins_closeRows hn hk (Nat.le_of_lt hi) ha hb
  have column : joins (closeRows n k i E) i k ↔ joins E i k := by
    rw [rows hi hk]
    simp
  have row : joins (closeRows n k i E) k b ↔ joins E k b := by
    rw [rows hk hb]
    simp
  rw [amidPivot]
  split_ifs with h
  · rw [Bool.or_eq_true, decide_eq_true_iff, Bool.not_eq_true', ← Bool.not_eq_true, column] at h
    rw [rows ha hb, or_and_right]
    apply or_congr_right
    constructor
    · apply Or.inl
    · rintro (hrow | ⟨⟨rfl, -⟩, hik, -, hjoin, -⟩)
      · apply hrow
      · apply absurd hjoin (h.resolve_left hik)
  · rw [Bool.or_eq_true, decide_eq_true_iff, Bool.not_eq_true', ← Bool.not_eq_true, column,
      not_or, not_not] at h
    rw [joins_closeRow (by omega) (by omega) (by omega) h.1 (by omega) (by omega), row,
      rows ha hb, or_assoc, or_and_right]
    apply or_congr_right
    apply or_congr_right
    constructor
    · rintro ⟨rfl, hbj, hab, hkb⟩
      use ⟨rfl, hbj⟩, h.1, hab, h.2, hkb
    · rintro ⟨⟨rfl, hbj⟩, -, hab, -, hkb⟩
      use rfl, hbj, hab, hkb

/-- When an entry is due, its place in the column of the pivot is as it was. -/
theorem joins_amidPivot_column (hn : n ≤ 2 ^ 31) (hk : k < n) (hi : i < n) (hj : j ≤ n) :
  joins (amidPivot n k i j E) i k = joins E i k
  := by
  rw [Bool.eq_iff_iff, joins_amidPivot hn hk hi hj hi hk]
  apply or_iff_left_of_imp
  rintro ⟨-, -, -, hik, -⟩
  apply hik

/-- So is its place in the row of the pivot. -/
theorem joins_amidPivot_row (hn : n ≤ 2 ^ 31) (hk : k < n) (hi : i < n) (hj : j < n) :
  joins (amidPivot n k i j E) k j = joins E k j
  := by
  rw [Bool.eq_iff_iff, joins_amidPivot hn hk hi (Nat.le_of_lt hj) hk hj]
  simp

/-- So is the entry itself. -/
theorem joins_amidPivot_entry (hn : n ≤ 2 ^ 31) (hk : k < n) (hi : i < n) (hj : j < n) :
  joins (amidPivot n k i j E) i j = joins E i j
  := by
  rw [Bool.eq_iff_iff, joins_amidPivot hn hk hi (Nat.le_of_lt hj) hi hj]
  simp

theorem joins_amidPivot_self (hn : n ≤ 2 ^ 31) (hk : k < n) (hi : i < n) (hj : j ≤ n) (ha : a < n) :
  joins (amidPivot n k i j E) a a = joins E a a
  := by
  rw [Bool.eq_iff_iff, joins_amidPivot hn hk hi hj ha ha]
  simp

theorem joins_closePivots_self (hn : n ≤ 2 ^ 31) (hk : k ≤ n) (ha : a < n) :
  joins (closePivots n E k) a a = joins E a a
  := by
  rw [Bool.eq_iff_iff, joins_closePivots hn hk ha ha]
  simp

/-- The states that the round of `k` goes through. In the state `now i j` the rows before `i` are
done, and row `i` is done as far as column `j`. Row `k` and the rows that are not joined to `k` when
their turn comes are left as they are. -/
structure Passes (n k : Nat) (before : EdgeSet) (now : Nat → Nat → EdgeSet) (after : EdgeSet) :
    Prop where
  first : now 0 0 = before
  entry : ∀ i j, now i (j + 1)
    = if i = k || !(now i 0).joins i k then now i j else closeEntry k i j (now i j)
  row : ∀ i, now (i + 1) 0 = now i n
  last : now n 0 = after

theorem amidPivot_zero :
  amidPivot n k i 0 E = closeRows n k i E
  := by
  rw [amidPivot]
  split_ifs <;> rfl

theorem passes_closePivot (n k : Nat) (E : EdgeSet) :
  Passes n k E (fun i j => amidPivot n k i j E) (closePivot n k E)
  where
  first := amidPivot_zero
  entry i j := by
    simp only [amidPivot_zero]
    rw [amidPivot, amidPivot]
    split_ifs with h
    · rfl
    · apply closeRow_succ
  row i := by
    rw [amidPivot_zero, closeRows_succ, amidPivot]
  last := amidPivot_zero

end EdgeSet

open EdgeSet (closePivots keyAt Leads LinkedBelow Passes)

namespace DependencyGraph

/-- What closing a graph has come to after the pivots below `k`, and what it does with `k`. -/
structure RoundExact (g : DependencyGraph) (k : Nat) : Prop where
  /-- There are the edges at the start, and those for the paths through files below `k`. -/
  edges : ∀ key, key ∈ closePivots g.bound g.keys k
    ↔ key ∈ g.keys ∨ ∃ i j, i < g.bound ∧ j < g.bound ∧ i ≠ j ∧ key = keyAt i j
      ∧ LinkedBelow g.keys k i j
  /-- It makes no difference if only paths are counted that visit no file twice. -/
  simple : ∀ i j, i ≠ j → (LinkedBelow g.keys k i j
    ↔ ∃ via, (∀ c ∈ via, c < k) ∧ (i :: (via ++ [j])).Nodup ∧ Leads g.keys i via j)
  /-- No file comes to depend on itself, and none ceases to. -/
  diagonal : ∀ i < g.bound, (closePivots g.bound g.keys k).joins i i = g.keys.joins i i
  /-- The round of `k` reads what was there when it began, although it writes to the same set. -/
  round : k < g.bound → ∃ now,
    Passes g.bound k (closePivots g.bound g.keys k) now (closePivots g.bound g.keys (k + 1))
      ∧ ∀ i < g.bound, ∀ j < g.bound,
        (now i j).joins i k = (closePivots g.bound g.keys k).joins i k
          ∧ (now i j).joins k j = (closePivots g.bound g.keys k).joins k j
          ∧ (now i j).joins i j = (closePivots g.bound g.keys k).joins i j
          ∧ ∀ a < g.bound, (now i j).joins a a = g.keys.joins a a

/-- The edges of a graph that its bound covers are between places below the bound. -/
theorem Covered.within {g : DependencyGraph} (hg : g.Covered) :
  g.keys.Within g.bound
  := by
  intro key hkey
  obtain ⟨⟨ha, han⟩, hb, hbn⟩ := hg.ends key hkey
  use key.dependent.place, han, key.dependency.place, hbn
  rw [EdgeSet.keyAt_place ha hb, EdgeKey.pack_decode]

/-- In every graph whose bound covers its edges, closing goes on round by round as it should, and
all graphs that can come about are of this kind. -/
theorem closing_rounds_exact :
  (∀ g : DependencyGraph, g.Covered → ∀ k ≤ g.bound, g.RoundExact k)
    ∧ ∀ steps, (run steps).1.Covered
  := by
  constructor
  · intro g hg k hk
    have hn := hg.bound_le
    exact {
      edges := EdgeSet.mem_closePivots_iff hn hg.within hk
      simple := fun i j hij => EdgeSet.linkedBelow_iff_nodup hij
      diagonal := fun i hi => EdgeSet.joins_closePivots_self hn hk hi
      round := by
        intro hkn
        use fun i j => EdgeSet.amidPivot g.bound k i j (closePivots g.bound g.keys k)
        constructor
        · rw [EdgeSet.closePivots_succ]
          apply EdgeSet.passes_closePivot
        · intro i hi j hj
          use EdgeSet.joins_amidPivot_column hn hkn hi (Nat.le_of_lt hj),
            EdgeSet.joins_amidPivot_row hn hkn hi hj, EdgeSet.joins_amidPivot_entry hn hkn hi hj
          intro a ha
          rw [EdgeSet.joins_amidPivot_self hn hkn hi (Nat.le_of_lt hj) ha]
          apply EdgeSet.joins_closePivots_self hn hk ha }
  · apply covered_run

/-- Three files in a circle, one of which also depends on itself. -/
theorem circle_rounds_exact :
  let g := (run [.insert ⟨0⟩ ⟨1⟩, .insert ⟨1⟩ ⟨2⟩, .insert ⟨2⟩ ⟨0⟩, .insert ⟨1⟩ ⟨1⟩]).1
  g.Covered ∧ 2 ≤ g.bound ∧ g.RoundExact 2
  := by
  intro g
  have hbound : 2 ≤ g.bound := by decide
  use covered_run _, hbound
  apply closing_rounds_exact.1 g (covered_run _) 2 hbound

end DependencyGraph

end Recompile
