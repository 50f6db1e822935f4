import Recompile.Dependency.Key
import Recompile.Proofs.Places

/-!
# Edge keys and the pairs they stand for

A key is the pair of its halves: packing loses nothing, and keys are ordered first by the
dependent file, then by the file it depends on.
-/

namespace Recompile

namespace EdgeKey

/-- The number of a key is that of the dependent in the upper half and that of the dependency in the
lower. -/
theorem toNat_raw_pack (a b : FileId) :
  (pack a b).raw.toNat = a.val.toUInt32.toNat * 2 ^ 32 + b.val.toUInt32.toNat
  := by
  have ha := a.val.toUInt32.toNat_lt
  have hb := b.val.toUInt32.toNat_lt
  have h := Nat.shiftLeft_add_eq_or_of_lt hb a.val.toUInt32.toNat
  simp only [pack, UInt64.toNat_or, UInt64.toNat_shiftLeft, UInt32.toNat_toUInt64,
    UInt64.reduceToNat, Nat.reduceMod]
  rw [Nat.mod_eq_of_lt (by rw [Nat.shiftLeft_eq]; omega), ← h, Nat.shiftLeft_eq]

@[simp]
theorem dependent_pack (a b : FileId) :
  (pack a b).dependent = a
  := by
  have ha := a.val.toUInt32.toNat_lt
  have hb := b.val.toUInt32.toNat_lt
  have h : ((pack a b).raw >>> 32).toUInt32 = a.val.toUInt32 := by
    apply UInt32.toNat_inj.mp
    rw [UInt64.toNat_toUInt32, UInt64.toNat_shiftRight, toNat_raw_pack, Nat.shiftRight_eq_div_pow]
    simp only [UInt64.reduceToNat, Nat.reduceMod]
    omega
  rw [dependent, h, Int32.toInt32_toUInt32]

@[simp]
theorem dependency_pack (a b : FileId) :
  (pack a b).dependency = b
  := by
  have ha := a.val.toUInt32.toNat_lt
  have hb := b.val.toUInt32.toNat_lt
  have h : (pack a b).raw.toUInt32 = b.val.toUInt32 := by
    apply UInt32.toNat_inj.mp
    rw [UInt64.toNat_toUInt32, toNat_raw_pack]
    omega
  rw [dependency, h, Int32.toInt32_toUInt32]

/-- The two ends are read back from their key, also if they have no numbers. -/
@[simp]
theorem decode_pack (a b : FileId) :
  (pack a b).decode = (a, b)
  := by
  rw [decode, dependent_pack, dependency_pack]

/-- Every key is the key of the pair it stands for. -/
theorem pack_decode (k : EdgeKey) :
  pack k.dependent k.dependency = k
  := by
  have h : (pack k.dependent k.dependency).raw = k.raw := by
    apply UInt64.toNat_inj.mp
    have hk := k.raw.toNat_lt
    rw [toNat_raw_pack, dependent, dependency, UInt32.toUInt32_toInt32, UInt32.toUInt32_toInt32,
      UInt64.toNat_toUInt32, UInt64.toNat_toUInt32, UInt64.toNat_shiftRight,
      Nat.shiftRight_eq_div_pow]
    simp only [UInt64.reduceToNat, Nat.reduceMod]
    omega
  apply congrArg EdgeKey.mk h

/-- Different pairs have different keys. -/
theorem pack_inj {a b c d : FileId} :
  pack a b = pack c d ↔ a = c ∧ b = d
  := by
  constructor
  · intro h
    have h' := congrArg decode h
    rw [decode_pack, decode_pack, Prod.mk.injEq] at h'
    apply h'
  · rintro ⟨rfl, rfl⟩
    rfl

theorem toNat_toUInt32_of_isKnown {a : FileId} (ha : a.isKnown) :
  a.val.toUInt32.toNat = a.place
  := Int32.toNat_toUInt32_of_le (FileId.isKnown_iff.mp ha)

/-- A file is known if the highest bit of its number is not set. -/
theorem isKnown_iff_toUInt32_lt {a : FileId} :
  a.isKnown ↔ a.val.toUInt32.toNat < 2 ^ 31
  := by
  constructor
  · intro ha
    rw [toNat_toUInt32_of_isKnown ha]
    apply a.place_lt
  · intro ha
    have h : FileId.ofIndex a.val.toUInt32.toNat = a := by
      apply congrArg FileId.mk
      rw [← UInt32.toInt32_ofNat', UInt32.ofNat_toNat, Int32.toInt32_toUInt32]
    rw [← h]
    apply FileId.isKnown_ofIndex ha

theorem encode_of_isKnown {a b : FileId} (ha : a.isKnown) (hb : b.isKnown) :
  encode a b = .ok (pack a b)
  := by
  simp [encode, ha, hb]

/-- Two files have a key exactly if both have numbers. -/
theorem encode_eq_ok_iff {a b : FileId} {k : EdgeKey} :
  encode a b = .ok k ↔ (a.isKnown ∧ b.isKnown) ∧ k = pack a b
  := by
  rw [encode, ← Bool.and_eq_true]
  split
  · next h => rw [Except.ok.injEq, and_iff_right h, eq_comm]
  · next h => simp only [reduceCtorEq, h, false_and]

/-! ### The order of keys -/

theorem lt_iff_toUInt32_lt {a b : FileId} (ha : a.isKnown) (hb : b.isKnown) :
  a < b ↔ a.val.toUInt32 < b.val.toUInt32
  := by
  rw [FileId.lt_iff_place_lt ha hb, UInt32.lt_iff_toNat_lt, toNat_toUInt32_of_isKnown ha,
    toNat_toUInt32_of_isKnown hb]

/-- Keys are compared by their upper halves, and by their lower halves if these are the same. -/
theorem raw_pack_lt_iff {a b c d : FileId} :
  (pack a b).raw < (pack c d).raw
    ↔ a.val.toUInt32 < c.val.toUInt32
      ∨ a.val.toUInt32 = c.val.toUInt32 ∧ b.val.toUInt32 < d.val.toUInt32
  := by
  have hb := b.val.toUInt32.toNat_lt
  have hd := d.val.toUInt32.toNat_lt
  simp only [UInt64.lt_iff_toNat_lt, toNat_raw_pack, UInt32.lt_iff_toNat_lt, ← UInt32.toNat_inj]
  omega

/-- Of two edges to the same file, the one from the lower file has the lower key. -/
theorem lt_of_compare_pack_right {a b x : FileId} (ha : a.isKnown) (hb : b.isKnown)
    (h : compare (pack a x) (pack b x) = .lt) :
  a < b
  := by
  have h' : (pack a x).raw < (pack b x).raw := Std.compare_eq_lt.mp h
  rw [lt_iff_toUInt32_lt ha hb]
  rcases raw_pack_lt_iff.mp h' with h' | ⟨-, h'⟩
  · apply h'
  · apply absurd h' (UInt32.lt_irrefl _)

/-- Of two edges from the same file, the one to the lower file has the lower key. -/
theorem lt_of_compare_pack_left {a b x : FileId} (ha : a.isKnown) (hb : b.isKnown)
    (h : compare (pack x a) (pack x b) = .lt) :
  a < b
  := by
  have h' : (pack x a).raw < (pack x b).raw := Std.compare_eq_lt.mp h
  rw [lt_iff_toUInt32_lt ha hb]
  rcases raw_pack_lt_iff.mp h' with h' | ⟨-, h'⟩
  · apply absurd h' (UInt32.lt_irrefl _)
  · apply h'

/-- The keys of edges between known files are in the order of the pairs. -/
theorem raw_pack_lt_iff_of_isKnown {a b c d : FileId} (ha : a.isKnown) (hb : b.isKnown)
    (hc : c.isKnown) (hd : d.isKnown) :
  (pack a b).raw < (pack c d).raw ↔ a < c ∨ a = c ∧ b < d
  := by
  have hac : a.val.toUInt32 = c.val.toUInt32 ↔ a = c := by
    constructor
    · intro h
      apply congrArg FileId.mk
      rw [← Int32.toInt32_toUInt32 a.val, h, Int32.toInt32_toUInt32]
    · rintro rfl
      rfl
  rw [raw_pack_lt_iff, hac, lt_iff_toUInt32_lt ha hc, lt_iff_toUInt32_lt hb hd]

/-! ### Keys and pairs of known files -/

/-- The number of a file in 64 bits, with its sign carried into the upper half. -/
def widen (id : FileId) : UInt64 := id.val.toInt64.toUInt64

/-- No sign is carried if the file is known. -/
theorem widen_of_isKnown {a : FileId} (ha : a.isKnown) :
  widen a = a.val.toUInt32.toUInt64
  := by
  have h : 0 ≤ a.val := FileId.isKnown_iff.mp ha
  have hwide : 0 ≤ a.val.toInt64 := by
    rw [Int64.le_iff_toInt_le, Int32.toInt_toInt64]
    apply Int32.le_iff_toInt_le.mp h
  apply UInt64.toNat_inj.mp
  rw [widen, Int64.toNat_toUInt64_of_le hwide, Int32.toNatClampNeg_toInt64,
    UInt32.toNat_toUInt64, Int32.toNat_toUInt32_of_le h]

theorem raw_pack_of_isKnown {a b : FileId} (ha : a.isKnown) (hb : b.isKnown) :
  (pack a b).raw = widen a <<< 32 ||| widen b
  := by
  rw [widen_of_isKnown ha, widen_of_isKnown hb]
  rfl

/-- Neither half of a key has its highest bit set exactly if the files are known. -/
theorem halves_lt_iff {k : EdgeKey} :
  k.raw.toNat / 2 ^ 32 < 2 ^ 31 ∧ k.raw.toNat % 2 ^ 32 < 2 ^ 31
    ↔ k.dependent.isKnown ∧ k.dependency.isKnown
  := by
  have hlow := k.dependency.val.toUInt32.toNat_lt
  have hraw : k.raw.toNat
      = k.dependent.val.toUInt32.toNat * 2 ^ 32 + k.dependency.val.toUInt32.toNat := by
    rw [← toNat_raw_pack, pack_decode]
  rw [isKnown_iff_toUInt32_lt, isKnown_iff_toUInt32_lt]
  omega

/-- Exactly the pairs of known files have keys. A key gives its pair back, and is made of the two
numbers widened to 64 bits, no bit of which is a sign. Keys are in the order of the pairs, so
different pairs have different keys. Every number whose halves are both below `2 ^ 31` is the key of
the pair it stands for. -/
theorem encode_order_isomorphism :
  (∀ a b : FileId, a.isKnown → b.isKnown →
      ∃ k, encode a b = .ok k ∧ k.decode = (a, b)
        ∧ k.raw = widen a <<< 32 ||| widen b
        ∧ k.raw.toNat / 2 ^ 32 < 2 ^ 31 ∧ k.raw.toNat % 2 ^ 32 < 2 ^ 31)
    ∧ (∀ (a b c d : FileId) (k l : EdgeKey), encode a b = .ok k → encode c d = .ok l →
        (k.raw < l.raw ↔ a < c ∨ a = c ∧ b < d) ∧ (k = l → a = c ∧ b = d))
    ∧ (∀ k : EdgeKey, k.raw.toNat / 2 ^ 32 < 2 ^ 31 → k.raw.toNat % 2 ^ 32 < 2 ^ 31 →
        encode k.decode.1 k.decode.2 = .ok k)
    ∧ ∀ a b : FileId, ¬ (a.isKnown ∧ b.isKnown) → encode a b = .error (.unencodableEdge a b)
  := by
  constructor
  · intro a b ha hb
    use pack a b, encode_of_isKnown ha hb, decode_pack a b, raw_pack_of_isKnown ha hb
    apply halves_lt_iff.mpr
    rw [dependent_pack, dependency_pack]
    use ha
  constructor
  · intro a b c d k l hk hl
    obtain ⟨⟨ha, hb⟩, rfl⟩ := encode_eq_ok_iff.mp hk
    obtain ⟨⟨hc, hd⟩, rfl⟩ := encode_eq_ok_iff.mp hl
    use raw_pack_lt_iff_of_isKnown ha hb hc hd, pack_inj.mp
  constructor
  · intro k hhigh hlow
    apply encode_eq_ok_iff.mpr
    use halves_lt_iff.mp ⟨hhigh, hlow⟩, k.pack_decode.symm
  · intro a b h
    apply if_neg
    rw [Bool.and_eq_true]
    apply h

end EdgeKey

end Recompile
