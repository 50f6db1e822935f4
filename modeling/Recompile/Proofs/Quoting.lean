import Mathlib.Data.Nat.Digits.Defs
import Recompile.Report.Drawing
import Recompile.Text.Reading

/-!
# Reading quoted texts back

Each character of a quoted text can be read off the front of what it was written as
(`Quoted.read_escape`), so different texts are quoted differently, also within the quotes of another
format. Nodes with different labels are therefore drawn differently.
-/

namespace Recompile

/-! ### Texts written one character after another -/

section

variable {α β : Type} {f : α → List β}

/-- Different lists are written differently if the first item can be read off the front of what a
list is written as. -/
theorem flatMap_inj_of_read (read : List β → α) (hread : ∀ x t, read (f x ++ t) = x)
    (hne : ∀ x, f x ≠ []) {xs ys : List α} (h : xs.flatMap f = ys.flatMap f) :
  xs = ys
  := by
  induction xs generalizing ys with
  | nil =>
      cases ys with
      | nil => rfl
      | cons y ys =>
          rw [List.flatMap_nil, List.flatMap_cons] at h
          apply absurd (List.append_eq_nil_iff.mp h.symm).1 (hne y)
  | cons x xs ih =>
      cases ys with
      | nil =>
          rw [List.flatMap_nil, List.flatMap_cons] at h
          apply absurd (List.append_eq_nil_iff.mp h).1 (hne x)
      | cons y ys =>
          rw [List.flatMap_cons, List.flatMap_cons] at h
          obtain rfl : x = y := by
            rw [← hread x (xs.flatMap f), h, hread]
          rw [ih (List.append_cancel_left h)]

end

namespace Quoted

/-! ### Numbers -/

/-- A digit has the value that it was written for. -/
theorem digitValue_digitChar :
  ∀ d < 16, digitValue (Nat.digitChar d) = d
  := by
  decide

theorem hex_of_le {n : Nat} (h : 16 ≤ n) :
  hex n = hex (n / 16) ++ [Nat.digitChar (n % 16)]
  := Nat.toDigits_of_base_le (by decide) h

theorem hex_of_lt {n : Nat} (h : n < 16) :
  hex n = [Nat.digitChar n]
  := Nat.toDigits_of_lt_base h

/-- A number is read back from its digits. -/
theorem numberOf_hex (n : Nat) :
  numberOf 16 (hex n) = n
  := by
  induction n using Nat.strongRecOn with
  | ind n ih =>
      by_cases h : n < 16
      · rw [hex_of_lt h, numberOf, List.foldl_cons, List.foldl_nil, digitValue_digitChar n h]
        omega
      · have hrest := ih (n / 16) (by omega)
        rw [numberOf] at hrest ⊢
        rw [hex_of_le (by omega), List.foldl_append, hrest, List.foldl_cons, List.foldl_nil,
          digitValue_digitChar _ (Nat.mod_lt n (by decide))]
        omega

/-- A number is written with nothing but digits. -/
theorem isHexDigit_of_mem_hex {n : Nat} {c : Char} (h : c ∈ hex n) :
  isHexDigit c
  := by
  have hdigit : ∀ d < 16, isHexDigit (Nat.digitChar d) := by decide
  induction n using Nat.strongRecOn with
  | ind n ih =>
      by_cases hn : n < 16
      · rw [hex_of_lt hn, List.mem_singleton] at h
        rw [h]
        apply hdigit n hn
      · rw [hex_of_le (by omega), List.mem_append, List.mem_singleton] at h
        rcases h with h | rfl
        · apply ih (n / 16) (by omega) h
        · apply hdigit _ (Nat.mod_lt n (by decide))

/-! ### Characters -/

/-- The character that the front of a quoted text stands for. -/
def read : List Char → Char
  | '\\' :: 'n' :: _ => '\n'
  | '\\' :: 'r' :: _ => '\r'
  | '\\' :: 't' :: _ => '\t'
  | '\\' :: '0' :: _ => '\x00'
  | '\\' :: 'u' :: _ :: cs => Char.ofNat (numberOf 16 (cs.takeWhile isHexDigit))
  | '\\' :: c :: _ => c
  | c :: _ => c
  | [] => default

/-- A character is read off the front of what it was written as, whatever follows. -/
theorem read_escape (c : Char) (t : List Char) :
  read (escape c ++ t) = c
  := by
  fun_cases escape c with
  | case7 =>
      have hdigits : (hex c.toNat ++ '\x7d' :: t).takeWhile isHexDigit = hex c.toNat := by
        rw [List.takeWhile_append_of_pos fun d hd => isHexDigit_of_mem_hex hd]
        apply List.append_nil
      simp [read, hdigits, numberOf_hex]
  | case8 => simp [read, *]
  | _ =>
      next h =>
        rw [h]
        rfl

/-- Every character is written as something. -/
theorem escape_ne_nil (c : Char) :
  escape c ≠ []
  := by
  fun_cases escape c <;> simp

/-- A character within the quotes of another format. -/
def nestChar (c : Char) : List Char := if c = '"' || c = '\\' then ['\\', c] else [c]

/-- The character that the front of a text within the quotes of another format stands for. -/
def readNested : List Char → Char
  | '\\' :: c :: _ => c
  | c :: _ => c
  | [] => default

/-- The same holds within the quotes of another format. -/
theorem readNested_nestChar (c : Char) (t : List Char) :
  readNested (nestChar c ++ t) = c
  := by
  rw [nestChar]
  split_ifs with h
  · rfl
  · simp only [Bool.or_eq_true, decide_eq_true_eq, not_or] at h
    simp [readNested, h]

theorem nestChar_ne_nil (c : Char) :
  nestChar c ≠ []
  := by
  rw [nestChar]
  split_ifs <;> simp

/-! ### Texts -/

/-- Different texts are quoted differently. -/
theorem quote_inj {t u : String} (h : quote t = quote u) :
  t = u
  := by
  have hchars := String.ofList_inj.mp h
  have hbodies := List.append_cancel_right (List.cons.inj hchars).2
  apply String.toList_inj.mp
  apply flatMap_inj_of_read read read_escape escape_ne_nil hbodies

/-- Different texts are written differently within the quotes of another format. -/
theorem nest_inj {t u : String} (h : nest t = nest u) :
  t = u
  := by
  have hchars := String.ofList_inj.mp h
  apply String.toList_inj.mp
  apply flatMap_inj_of_read readNested readNested_nestChar nestChar_ne_nil hchars

end Quoted

/-- Nodes with different labels are drawn differently. -/
theorem Drawing.nodeAttributes_inj {label label' : String}
    (h : nodeAttributes label = nodeAttributes label') :
  label = label'
  := by
  apply Quoted.quote_inj
  apply Quoted.nest_inj
  rw [nodeAttributes, nodeAttributes, String.append_left_inj, String.append_right_inj] at h
  apply h

end Recompile
