import Mathlib.Algebra.Group.Nat.Defs
import Mathlib.Tactic.SplitIfs
import Mathlib.Tactic.Use

/-!
# Texts and their bytes

Texts are ordered by the numbers of their characters. In UTF-8 a character is written with its
number in digits to the base 64, behind a first byte that grows with the number of digits. So the
bytes of two texts are ordered as the texts are.
-/

namespace Recompile

namespace Utf8

variable {v w n : Nat} {xs ys : List UInt8}

/-! ### Digits -/

/-- The last `n` digits of a number to the base 64, each in a byte that continues a character. -/
def continued : Nat → Nat → List UInt8
  | 0, _ => []
  | n + 1, v => UInt8.ofNat (v / 64 ^ n % 64 + 128) :: continued n v

/-- The smaller number has the smaller quotient, or the same quotient and the smaller
remainder. -/
theorem div_lt_or_mod_lt (h : v < w) (m : Nat) :
  v / m < w / m ∨ v / m = w / m ∧ v % m < w % m
  := by
  have hv := Nat.div_add_mod v m
  have hw := Nat.div_add_mod w m
  rcases Nat.lt_or_eq_of_le (Nat.div_le_div_right (Nat.le_of_lt h)) with hlt | heq
  · left
    apply hlt
  · right
    use heq
    rw [heq] at hv
    omega

/-- A list of bytes is smaller if its first byte is, or else if its rest is. -/
theorem ofNat_cons_lt {a b : Nat} (hb : b < 256) (h : a < b ∨ a = b ∧ xs < ys) :
  UInt8.ofNat a :: xs < UInt8.ofNat b :: ys
  := by
  rw [List.cons_lt_cons_iff]
  rcases h with h | ⟨rfl, h⟩
  · left
    apply (UInt8.ofNat_lt_iff_lt (Nat.lt_trans h hb) hb).mpr h
  · right
    use rfl, h

/-- Of two numbers the one whose last digits are smaller is written smaller, whatever follows. -/
theorem continued_append_lt (h : v % 64 ^ n < w % 64 ^ n) :
  continued n v ++ xs < continued n w ++ ys
  := by
  induction n with
  | zero => simp [Nat.mod_one] at h
  | succ n ih =>
      apply ofNat_cons_lt
      · have := Nat.mod_lt (w / 64 ^ n) (y := 64)
        omega
      · have hdigits := div_lt_or_mod_lt h (64 ^ n)
        simp only [Nat.pow_succ, Nat.mod_mul_right_div_self,
          Nat.mod_mod_of_dvd _ (Nat.dvd_mul_right (64 ^ n) 64)] at hdigits
        rcases hdigits with hlt | ⟨heq, hlt⟩
        · left
          omega
        · right
          use congrArg (· + 128) heq
          apply ih hlt

/-! ### Characters -/

/-- The least number of a character with `n` continued digits. -/
def least : Nat → Nat
  | 0 => 0
  | 1 => 0x80
  | 2 => 0x800
  | 3 => 0x10000
  | _ => 0x110000

/-- What the first byte of a character with `n` continued digits has besides the first digit. -/
def mark : Nat → Nat
  | 0 => 0
  | 1 => 0xC0
  | 2 => 0xE0
  | 3 => 0xF0
  | _ => 0xF8

theorem least_le_and_mark_le :
  ∀ n < 4, ∀ m < n, least (m + 1) ≤ least n ∧ mark (m + 1) ≤ mark n
  := by decide

theorem mark_le :
  ∀ n < 4, mark (n + 1) ≤ 256
  := by decide

/-- A character is written as its first digit, with a mark that tells how many more there are, and
then these. -/
theorem utf8EncodeChar_eq (c : Char) :
  ∃ n < 4, least n ≤ c.toNat ∧ c.toNat < least (n + 1)
    ∧ c.toNat / 64 ^ n + mark n < mark (n + 1)
    ∧ String.utf8EncodeChar c
      = UInt8.ofNat (c.toNat / 64 ^ n + mark n) :: continued n c.toNat
  := by
  have hc : c.val.toNat < 0x110000 := by
    rcases c.valid with h | ⟨-, h⟩
    · apply Nat.lt_trans h
      decide
    · apply h
  rw [String.utf8EncodeChar, Char.toNat]
  generalize c.val.toNat = v at hc
  split_ifs with h₁ h₂ h₃
  · use 0
    simp [continued, least, mark]
    omega
  · use 1
    have hfirst : v / 64 % 32 = v / 64 := by omega
    simp [continued, least, mark, hfirst]
    omega
  · use 2
    have hfirst : v / 4096 % 16 = v / 4096 := by omega
    simp [continued, least, mark, hfirst]
    omega
  · use 3
    have hfirst : v / 262144 % 8 = v / 262144 := by omega
    simp [continued, least, mark, hfirst]
    omega

/-- The smaller character has the smaller bytes, whatever follows the two. -/
theorem utf8EncodeChar_append_lt {c d : Char} (h : c < d) :
  String.utf8EncodeChar c ++ xs < String.utf8EncodeChar d ++ ys
  := by
  have hlt : c.toNat < d.toNat := h
  obtain ⟨n, hn, hleastc, hc, hmarkc, hencodec⟩ := utf8EncodeChar_eq c
  obtain ⟨m, hm, hleastd, hd, hmarkd, hencoded⟩ := utf8EncodeChar_eq d
  have hbyte := mark_le m hm
  rw [hencodec, hencoded]
  apply ofNat_cons_lt (Nat.lt_of_lt_of_le hmarkd hbyte)
  rcases Nat.lt_trichotomy n m with hnm | rfl | hnm
  · -- The first byte of the shorter one is below all marks of longer ones.
    left
    apply Nat.lt_of_lt_of_le hmarkc
    apply Nat.le_trans (least_le_and_mark_le m hm n hnm).2
    apply Nat.le_add_left
  · rcases div_lt_or_mod_lt hlt (64 ^ n) with hdiv | ⟨hdiv, hmod⟩
    · left
      omega
    · right
      use congrArg (· + mark n) hdiv
      apply continued_append_lt hmod
  · have := (least_le_and_mark_le n hn m hnm).1
    omega

/-! ### Texts -/

/-- The bytes of a text. -/
def bytes (s : String) : List UInt8 := s.toUTF8.data.toList

/-- The bytes of a text are those of its characters. -/
theorem bytes_eq (s : String) :
  bytes s = s.toList.flatMap String.utf8EncodeChar
  := by
  rw [bytes, ← String.ofList_toList (s := s), String.toUTF8_eq_toByteArray,
    String.toByteArray_ofList, List.utf8Encode, List.data_toByteArray, String.toList_ofList]

/-- Texts are ordered as their bytes are. -/
theorem flatMap_utf8EncodeChar_lt {cs ds : List Char} (h : cs < ds) :
  cs.flatMap String.utf8EncodeChar < ds.flatMap String.utf8EncodeChar
  := by
  induction cs generalizing ds with
  | nil =>
      cases ds with
      | nil => cases h
      | cons d ds =>
          obtain ⟨n, -, -, -, -, hencode⟩ := utf8EncodeChar_eq d
          rw [List.flatMap_cons, hencode]
          apply List.nil_lt_cons
  | cons c cs ih =>
      cases ds with
      | nil => cases h
      | cons d ds =>
          rw [List.flatMap_cons, List.flatMap_cons]
          rcases List.cons_lt_cons_iff.mp h with hlt | ⟨rfl, hlt⟩
          · apply utf8EncodeChar_append_lt hlt
          · apply List.append_left_lt
            apply ih hlt

/-- The smaller text has the smaller bytes. -/
theorem bytes_lt {s t : String} (h : s < t) :
  bytes s < bytes t
  := by
  rw [bytes_eq, bytes_eq]
  apply flatMap_utf8EncodeChar_lt (String.lt_iff.mp h)

end Utf8

end Recompile
