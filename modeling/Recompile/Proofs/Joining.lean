import Mathlib.Tactic.SplitIfs
import Mathlib.Tactic.Use
import Recompile.Path.Basic

/-!
# Joined paths

A relative path that is read from a directory has the steps of the directory, and after them its
own. A `.` in front of it is no step any more.
-/

namespace Recompile

namespace Path

variable {base p : Path} {ss ts : List (List Char)}

/-! ### Pieces -/

/-- A slash between two spellings separates the pieces of one from those of the other. -/
theorem splitSlashes_append (cs ds : List Char) :
  splitSlashes (cs ++ '/' :: ds) = splitSlashes cs ++ splitSlashes ds
  := by
  induction cs with
  | nil => rfl
  | cons c cs ih =>
      rw [List.cons_append, splitSlashes, splitSlashes, ih]
      split_ifs
      · rfl
      · cases h : splitSlashes cs with
        | nil => exact absurd h (splitSlashes_ne_nil cs)
        | cons s ss => rfl

/-- Only the empty spelling has no slash and nothing else. -/
theorem eq_nil_of_splitSlashes {cs : List Char} (h : splitSlashes cs = [[]]) :
  cs = []
  := by
  rw [← joinSlashes_splitSlashes cs, h]
  rfl

/-- A path that is read from the empty path stays as it is. -/
theorem join_of_empty (hbase : base.text = "") :
  base.join p = p
  := by
  rw [join, hbase]
  split_ifs with hp hslash
  · rfl
  · rw [String.empty_append]
  · exact absurd rfl hslash

/-- A joined path is spelled with one slash between the directory and the rest. -/
theorem toList_join (hbase : base.text ≠ "") (hp : ¬ p.isAbsolute) :
  ∃ cs, (base.text.toList = cs ∧ cs ≠ [] ∨ base.text.toList = cs ++ ['/'])
    ∧ (base.join p).text.toList = cs ++ '/' :: p.text.toList
  := by
  rw [join, if_neg hp]
  split_ifs with hslash
  · rcases List.eq_nil_or_concat base.text.toList with hnil | ⟨cs, c, hcs⟩
    · apply absurd (String.toList_eq_nil_iff.mp hnil) hbase
    · rw [hcs, List.concat_eq_append] at hslash
      obtain rfl : c = '/' := by simpa using hslash
      use cs
      constructor
      · right
        rw [hcs, List.concat_eq_append]
      · rw [String.toList_append, hcs, List.concat_eq_append, List.append_assoc,
          List.singleton_append]
  · use base.text.toList
    constructor
    · left
      use rfl
      intro hnil
      apply hbase (String.toList_eq_nil_iff.mp hnil)
    · rw [String.toList_append, String.toList_append, List.append_assoc]
      rfl

/-! ### Steps -/

theorem step?_ne_here (s : List Char) :
  step? s ≠ some .here
  := by
  fun_cases step? s <;> simp

/-- A first piece that stands for a start is no other step. -/
theorem components_eq (p : Path) :
  p.components = (start p.segments).1.toList ++ p.segments.filterMap step?
  := by
  rw [components]
  generalize p.segments = ss
  fun_cases start ss <;> rfl

theorem fst_start_append (hss : ss ≠ []) (hss' : ss ≠ [[]]) :
  (start (ss ++ ts)).1 = (start ss).1
  := by
  match ss with
  | [[]] => exact absurd rfl hss'
  | [] :: s :: ss => rfl
  | (c :: s) :: ss =>
      rw [List.cons_append]
      unfold start
      split <;> split <;> simp_all

/-- What a path starts with is told by what its spelling starts with. -/
theorem fst_start_splitSlashes_append {cs : List Char} (hcs : cs ≠ []) :
  (start (splitSlashes cs ++ ts)).1 = (start (splitSlashes cs)).1
  := by
  apply fst_start_append
  · apply splitSlashes_ne_nil
  · intro h
    apply hcs (eq_nil_of_splitSlashes h)

theorem fst_start_nil_cons (hts : ts ≠ []) :
  (start ([] :: ts)).1 = some .root
  := by
  cases ts with
  | nil => exact absurd rfl hts
  | cons t ts => rfl

/-- Only an absolute path starts at the root. -/
theorem start_ne_root (hp : ¬ p.isAbsolute) :
  (start p.segments).1 ≠ some .root
  := by
  intro h
  apply hp
  obtain ⟨s, ss, hss⟩ : ∃ s ss, p.segments = [] :: s :: ss := by
    unfold start at h
    split at h
    · next s ss hss => use s, ss
    · cases h
    · cases h
  have htext : p.text.toList = joinSlashes ([] :: s :: ss) := by
    rw [← hss, segments, joinSlashes_splitSlashes]
  rw [isAbsolute, htext]
  rfl

/-- The steps of a relative path, besides a `.` in front. -/
theorem filterMap_segments (hp : ¬ p.isAbsolute) :
  p.segments.filterMap step? = p.components.filter (· ≠ .here)
  := by
  have hrest : (p.segments.filterMap step?).filter (· ≠ .here) = p.segments.filterMap step? := by
    rw [List.filter_eq_self]
    intro c hc
    obtain ⟨s, -, hs⟩ := List.mem_filterMap.mp hc
    apply decide_eq_true
    rintro rfl
    apply step?_ne_here s hs
  rw [components_eq, List.filter_append, hrest]
  have hfirst := start_ne_root hp
  unfold start at hfirst ⊢
  split at hfirst
  · exact absurd rfl hfirst
  · rfl
  · rfl

/-- A joined path has the steps of the directory, then those of the rest. -/
theorem components_join (hbase : base.text ≠ "") (hp : ¬ p.isAbsolute) :
  (base.join p).components = base.components ++ p.components.filter (· ≠ .here)
  := by
  obtain ⟨cs, hcs, hjoin⟩ := toList_join hbase hp
  have hsegments : (base.join p).segments = splitSlashes cs ++ p.segments := by
    rw [segments, hjoin, splitSlashes_append, segments]
  have hbase' : base.segments = splitSlashes base.text.toList := rfl
  have hsteps : base.segments.filterMap step? = (splitSlashes cs).filterMap step? := by
    rw [hbase']
    rcases hcs with ⟨hcs, -⟩ | hcs
    · rw [hcs]
    · -- The empty piece after the last slash is no step.
      rw [hcs, splitSlashes_append, List.filterMap_append]
      apply List.append_nil
  have hstart : (start (base.join p).segments).1 = (start base.segments).1 := by
    rw [hsegments, hbase']
    by_cases hnil : cs = []
    · -- The directory is a single slash, and without it nothing tells that there was a root.
      rcases hcs with ⟨-, hne⟩ | hcs
      · apply absurd hnil hne
      · rw [hcs, hnil]
        apply fst_start_nil_cons (splitSlashes_ne_nil _)
    · rw [fst_start_splitSlashes_append hnil]
      rcases hcs with ⟨hcs, -⟩ | hcs
      · rw [hcs]
      · rw [hcs, splitSlashes_append, fst_start_splitSlashes_append hnil]
  rw [components_eq, components_eq base, hstart, hsegments, List.filterMap_append, hsteps,
    filterMap_segments hp, List.append_assoc]

end Path

end Recompile
