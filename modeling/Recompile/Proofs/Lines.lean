import Mathlib.Tactic.Use
import Recompile.Report.Text

/-!
# Lines of reports

A report is printed entry by entry, most of them for one file each. The lines of its text are those
of its entries, in order (`Report.linesOf_textOf`). In a report with entries of two kinds, each of
which tells files apart, two files have entries that look alike exactly if the entry of one kind for
one file looks like the entry of the other kind for the other (`Report.OfTwoKinds.alike_iff`). If
their entries have no line feeds in them, that is also when the same line is printed for both.
-/

namespace Recompile

/-! ### Texts -/

/-- The lines of a text, which are what stands between its line feeds. -/
def linesOf (t : String) : List (List Char) := t.toList.splitOn '\n'

/-- A text without line feeds is one line. -/
theorem linesOf_of_not_mem {t : String} (h : '\n' ∉ t.toList) :
  linesOf t = [t.toList]
  := List.splitOn_eq_singleton h

/-- A line that is ended by a line feed has no part in the lines after it. -/
theorem linesOf_append (t u : String) :
  linesOf (t ++ "\n" ++ u) = linesOf t ++ linesOf u
  := by
  have h : (t ++ "\n" ++ u).toList = t.toList ++ '\n' :: u.toList := by simp
  simp only [linesOf, h, List.splitOn_eq_splitOnP]
  apply List.splitOnP_append_cons
  rfl

/-- The lines of a text that is put together from pieces are the lines of the pieces. -/
theorem linesOf_unlines (ts : List String) :
  linesOf (unlines ts) = ts.flatMap linesOf ++ [[]]
  := by
  induction ts with
  | nil => rfl
  | cons t ts ih =>
      have h : unlines (t :: ts) = t ++ "\n" ++ unlines ts := String.join_cons
      rw [h, linesOf_append, ih, List.flatMap_cons, List.append_assoc]

namespace Report

/-! ### Entries -/

/-- What a report prints at once, for one file or for none. -/
structure Entry where
  file : Option FileId
  text : String
deriving DecidableEq

variable {es : List Entry} {l : List Char} {t : String} {x a b : FileId}

/-- The text of a report. -/
def textOf (es : List Entry) : String := unlines (es.map Entry.text)

/-- The lines of a report, each with the file that it is printed for. -/
def lines (es : List Entry) : List (Option FileId × List Char) :=
  es.flatMap fun e => (linesOf e.text).map fun l => (e.file, l)

/-- The lines of the text of a report are the lines of its entries. -/
theorem linesOf_textOf (es : List Entry) :
  linesOf (textOf es) = (lines es).map Prod.snd ++ [[]]
  := by
  rw [textOf, linesOf_unlines, List.flatMap_map, lines, List.map_flatMap]
  simp [Function.comp_def]

theorem mem_lines :
  (some x, l) ∈ lines es ↔ ∃ t, ⟨some x, t⟩ ∈ es ∧ l ∈ linesOf t
  := by
  simp only [lines, List.mem_flatMap, List.mem_map, Prod.mk.injEq]
  constructor
  · rintro ⟨e, he, _, hl, hx, rfl⟩
    use e.text
    rw [← hx]
    use he, hl
  · rintro ⟨t, he, hl⟩
    use ⟨some x, t⟩, he, l, hl

/-! ### Shared lines -/

/-- The same line is printed for both files. -/
def Share (es : List Entry) (a b : FileId) : Prop :=
  ∃ l, (some a, l) ∈ lines es ∧ (some b, l) ∈ lines es

/-- The same is printed at once for both files. -/
def Alike (es : List Entry) (a b : FileId) : Prop := ∃ t, ⟨some a, t⟩ ∈ es ∧ ⟨some b, t⟩ ∈ es

/-- The entries for files are `first x` for the files `x` of one list and `second x` for those of
another, and each of the two tells its files apart. -/
structure OfTwoKinds (es : List Entry) (first second : FileId → String) (xs ys : List FileId) :
    Prop where
  mem_iff : ∀ x t, ⟨some x, t⟩ ∈ es ↔ x ∈ xs ∧ t = first x ∨ x ∈ ys ∧ t = second x
  first_inj : ∀ a ∈ xs, ∀ b ∈ xs, first a = first b → a = b
  second_inj : ∀ a ∈ ys, ∀ b ∈ ys, second a = second b → a = b

variable {first second : FileId → String} {xs ys : List FileId}

/-- Two files have entries that look alike exactly if the entry of the first kind for one of them
looks like the entry of the second kind for the other. -/
theorem OfTwoKinds.alike_iff (h : OfTwoKinds es first second xs ys) (hab : a ≠ b) :
  Alike es a b
    ↔ (a ∈ xs ∧ b ∈ ys ∧ first a = second b) ∨ (b ∈ xs ∧ a ∈ ys ∧ first b = second a)
  := by
  simp only [Alike, h.mem_iff]
  constructor
  · rintro ⟨t, ⟨ha, rfl⟩ | ⟨ha, rfl⟩, ⟨hb, hsame⟩ | ⟨hb, hsame⟩⟩
    · apply absurd (h.first_inj a ha b hb hsame) hab
    · left
      use ha, hb
    · right
      use hb, ha, hsame.symm
    · apply absurd (h.second_inj a ha b hb hsame) hab
  · rintro (⟨ha, hb, hsame⟩ | ⟨hb, ha, hsame⟩)
    · use first a, .inl ⟨ha, rfl⟩, .inr ⟨hb, hsame⟩
    · use first b, .inr ⟨ha, hsame⟩, .inl ⟨hb, rfl⟩

/-- Where no entry for either file has a line feed, they share a line exactly if they have entries
that look alike. -/
theorem OfTwoKinds.share_iff_alike (h : OfTwoKinds es first second xs ys)
    (hlines : ∀ x, x = a ∨ x = b → '\n' ∉ (first x).toList ∧ '\n' ∉ (second x).toList) :
  Share es a b ↔ Alike es a b
  := by
  have one (x : FileId) (hx : x = a ∨ x = b) (t : String) (ht : ⟨some x, t⟩ ∈ es) :
      linesOf t = [t.toList] := by
    apply linesOf_of_not_mem
    rcases (h.mem_iff x t).mp ht with ⟨-, rfl⟩ | ⟨-, rfl⟩
    · apply (hlines x hx).1
    · apply (hlines x hx).2
  constructor
  · rintro ⟨l, hla, hlb⟩
    obtain ⟨t, ht, hlt⟩ := mem_lines.mp hla
    obtain ⟨u, hu, hlu⟩ := mem_lines.mp hlb
    rw [one a (.inl rfl) t ht, List.mem_singleton] at hlt
    rw [one b (.inr rfl) u hu, List.mem_singleton] at hlu
    obtain rfl : t = u := String.toList_inj.mp (hlt.symm.trans hlu)
    use t
  · rintro ⟨t, hta, htb⟩
    have hline : t.toList ∈ linesOf t := by
      rw [one a (.inl rfl) t hta]
      apply List.mem_singleton_self
    use t.toList
    rw [mem_lines, mem_lines]
    use ⟨t, hta, hline⟩, t, htb

end Report

end Recompile
