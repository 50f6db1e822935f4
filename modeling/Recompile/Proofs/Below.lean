import Mathlib.Tactic.ByContra
import Recompile.Path.Relative
import Recompile.Proofs.Joining

/-!
# Paths below a directory

What is left of a path below a directory has the steps of the path that come after those of the
directory (`components_below`), and something is left of every path that starts with the steps of
the directory. Paths that are read from a directory and shown without it, wherever they lie below
it, are told apart by what is shown (`same_of_shown_join`).
-/

namespace Recompile

namespace Path

variable {base p q r : Path} {s : List Char} {ss ts : List (List Char)} {cs ds : List Component}

/-! ### Pieces -/

theorem splitSlashes_of_not_mem (hs : '/' ∉ s) :
  splitSlashes s = [s]
  := by
  induction s with
  | nil => rfl
  | cons c s ih =>
      rw [List.mem_cons, not_or] at hs
      rw [splitSlashes, if_neg (Ne.symm hs.1), ih hs.2]

/-- No piece between slashes has a slash in it. -/
theorem not_mem_of_mem_splitSlashes {cs : List Char} (hs : s ∈ splitSlashes cs) :
  '/' ∉ s
  := by
  induction cs generalizing s with
  | nil =>
      obtain rfl := List.mem_singleton.mp hs
      apply List.not_mem_nil
  | cons c cs ih =>
      rw [splitSlashes] at hs
      split_ifs at hs with hc
      · rcases List.mem_cons.mp hs with rfl | hs
        · apply List.not_mem_nil
        · apply ih hs
      · cases hsplit : splitSlashes cs with
        | nil => exact absurd hsplit (splitSlashes_ne_nil cs)
        | cons t ts =>
            rw [hsplit] at hs ih
            rcases List.mem_cons.mp hs with rfl | hs
            · rw [List.mem_cons, not_or]
              use Ne.symm hc, ih List.mem_cons_self
            · apply ih (List.mem_cons_of_mem t hs)

/-- Pieces without slashes are read back when they are put together with slashes between them. -/
theorem splitSlashes_joinSlashes (hne : ss ≠ []) (hss : ∀ s ∈ ss, '/' ∉ s) :
  splitSlashes (joinSlashes ss) = ss
  := by
  fun_induction joinSlashes ss with
  | case1 => exact absurd rfl hne
  | case2 s => apply splitSlashes_of_not_mem (hss s List.mem_cons_self)
  | case3 s t ss ih =>
      rw [splitSlashes_append, splitSlashes_of_not_mem (hss s List.mem_cons_self),
        ih (List.cons_ne_nil t ss) fun u hu => hss u (List.mem_cons_of_mem s hu)]
      rfl

/-- A path has the pieces that it was made of. -/
theorem segments_ofSegments (hne : ss ≠ []) (hss : ∀ s ∈ ss, '/' ∉ s) :
  (ofSegments ss).segments = ss
  := by
  rw [segments, ofSegments, String.toList_ofList, splitSlashes_joinSlashes hne hss]

theorem not_mem_of_mem_segments (hs : s ∈ p.segments) :
  '/' ∉ s
  := not_mem_of_mem_splitSlashes hs

/-! ### Pieces that stand for no step -/

/-- Dropping pieces at the front that stand for no step drops no step. -/
theorem filterMap_dropWhile (ss : List (List Char)) :
  (ss.dropWhile fun s => (step? s).isNone).filterMap step? = ss.filterMap step?
  := by
  induction ss with
  | nil => rfl
  | cons s ss ih =>
      rw [List.dropWhile_cons, List.filterMap_cons]
      cases hs : step? s with
      | none => apply ih
      | some c => simp [hs]

theorem filterMap_trimEnd (ss : List (List Char)) :
  (trimEnd ss).filterMap step? = ss.filterMap step?
  := by
  rw [trimEnd, List.filterMap_reverse, filterMap_dropWhile, List.filterMap_reverse,
    List.reverse_reverse]

/-- Nor does dropping them at both ends. -/
theorem filterMap_trimSegments (ss : List (List Char)) :
  (trimSegments ss).filterMap step? = ss.filterMap step?
  := by
  rw [trimSegments, filterMap_trimEnd, filterMap_dropWhile]

theorem isPrefix_trimEnd (ss : List (List Char)) :
  trimEnd ss <+: ss
  := by
  rw [← List.reverse_suffix, trimEnd, List.reverse_reverse]
  apply List.dropWhile_suffix

/-- What is left is among the pieces. -/
theorem mem_of_mem_trimSegments (hs : s ∈ trimSegments ss) :
  s ∈ ss
  := by
  apply (List.dropWhile_suffix _).subset
  apply (isPrefix_trimEnd _).subset hs

/-- A first piece that is an ordinary step is no start. -/
theorem start_of_step? (hs : (step? s).isSome) :
  start (s :: ss) = (none, s :: ss)
  := by
  unfold start
  split
  · next h =>
      obtain ⟨rfl, -⟩ := List.cons.inj h
      cases hs
  · next h =>
      obtain ⟨rfl, -⟩ := List.cons.inj h
      cases hs
  · rfl

/-- What is not dropped begins with an ordinary step. -/
theorem isSome_of_dropWhile (h : (ss.dropWhile fun s => (step? s).isNone) = s :: ts) :
  (step? s).isSome
  := by
  have hhead := List.head?_dropWhile_not (fun s => (step? s).isNone) ss
  rw [h, List.head?_cons] at hhead
  simpa using hhead

theorem trimEnd_ne_singleton_nil (ss : List (List Char)) :
  trimEnd ss ≠ [[]]
  := by
  intro h
  rw [trimEnd, List.reverse_eq_iff] at h
  cases isSome_of_dropWhile h

/-- What is left is not read as a start: it begins with an ordinary step, or is empty. -/
theorem start_trimSegments (ss : List (List Char)) :
  start (trimSegments ss) = (none, trimSegments ss)
  := by
  cases htrim : trimSegments ss with
  | nil => rfl
  | cons s ts =>
      apply start_of_step?
      obtain ⟨us, hus⟩ : s :: ts <+: ss.dropWhile fun s => (step? s).isNone := by
        rw [← htrim]
        apply isPrefix_trimEnd
      apply isSome_of_dropWhile hus.symm

/-- The steps of a path that is put together from pieces are its start and the steps of the rest. -/
theorem components_ofSegments (hne : ss ≠ []) (hss : ∀ s ∈ ss, '/' ∉ s) :
  (ofSegments ss).components = (start ss).1.toList ++ ss.filterMap step?
  := by
  rw [components_eq, segments_ofSegments hne hss]

/-- Put together without the pieces at either end that stand for no step, they keep their steps and
get no start. -/
theorem components_ofSegments_trimSegments (hss : ∀ s ∈ ss, '/' ∉ s) :
  (ofSegments (trimSegments ss)).components = ss.filterMap step?
  := by
  rw [← filterMap_trimSegments]
  by_cases hnil : trimSegments ss = []
  · rw [hnil]
    rfl
  · rw [components_ofSegments hnil fun s hs => hss s (mem_of_mem_trimSegments hs),
      start_trimSegments]
    rfl

/-- Slashes and `.` steps at its end make no difference to where a path leads. -/
theorem components_withoutTrailing (p : Path) :
  p.withoutTrailing.components = p.components
  := by
  have hpieces : ∀ s ∈ p.segments, '/' ∉ s := fun s hs => not_mem_of_mem_segments hs
  rw [components_eq p, withoutTrailing]
  generalize p.segments = ss at hpieces ⊢
  have hend {ts : List (List Char)} (hts : ∀ s ∈ ts, s ∈ ss) : ∀ s ∈ trimEnd ts, '/' ∉ s := by
    intro s hs
    apply hpieces s (hts s ((isPrefix_trimEnd ts).subset hs))
  fun_cases start ss with
  | case1 s ts =>
      -- The slash in front stays when nothing comes after it.
      have hend' := hend fun u hu => List.mem_cons_of_mem [] hu
      have hsteps := filterMap_trimEnd (s :: ts)
      simp only
      split_ifs with hnil
      · rw [hnil] at hsteps
        rw [List.filterMap_cons, ← hsteps]
        rfl
      · rw [components_ofSegments (List.cons_ne_nil _ _), fst_start_nil_cons hnil,
          List.filterMap_cons, hsteps]
        · rfl
        · simp only [List.forall_mem_cons]
          use List.not_mem_nil, hend'
  | case2 ts =>
      simp only
      rw [components_ofSegments (List.cons_ne_nil _ _), List.filterMap_cons, filterMap_trimEnd]
      · rfl
      · simp only [List.forall_mem_cons]
        use by decide, hend fun u hu => List.mem_cons_of_mem _ hu
  | case3 ss hroot hhere =>
      have hsteps := filterMap_trimEnd ss
      simp only
      by_cases hnil : trimEnd ss = []
      · rw [hnil] at hsteps ⊢
        rw [← hsteps]
        rfl
      · obtain ⟨us, hus⟩ := isPrefix_trimEnd ss
        have hstart : (start ss).1 = (start (trimEnd ss)).1 := by
          rw [← fst_start_append hnil (trimEnd_ne_singleton_nil ss), hus]
        rw [components_ofSegments hnil (hend fun u hu => hu), ← hstart, hsteps,
          start.eq_3 ss hroot hhere]

/-! ### Steps that are taken -/

/-- What is left once some steps have been taken has the steps that come after them. -/
theorem filterMap_dropSteps (h : dropSteps cs ss = some ts) :
  ss.filterMap step? = cs ++ ts.filterMap step?
  := by
  fun_induction dropSteps cs ss with
  | case1 ss =>
      obtain rfl := Option.some.inj h
      rfl
  | case2 => cases h
  | case3 c cs s ss hs ih =>
      rw [List.filterMap_cons, hs]
      apply ih h
  | case4 cs s ss c hs ih =>
      rw [List.filterMap_cons, hs]
      simp [ih h]
  | case5 => cases h

theorem dropSteps_suffix (h : dropSteps cs ss = some ts) :
  ts <:+ ss
  := by
  fun_induction dropSteps cs ss with
  | case1 ss =>
      obtain rfl := Option.some.inj h
      apply List.suffix_refl
  | case2 => cases h
  | case3 c cs s ss hs ih => apply (ih h).trans (List.suffix_cons s ss)
  | case4 cs s ss c hs ih => apply (ih h).trans (List.suffix_cons s ss)
  | case5 => cases h

/-- Steps that come first can be taken. -/
theorem exists_dropSteps (h : ss.filterMap step? = cs ++ ds) :
  ∃ ts, dropSteps cs ss = some ts
  := by
  fun_induction dropSteps cs ss with
  | case1 ss => use ss
  | case2 => cases h
  | case3 c cs s ss hs ih =>
      rw [List.filterMap_cons, hs] at h
      apply ih h
  | case4 cs s ss c hs ih =>
      rw [List.filterMap_cons, hs] at h
      apply ih (List.cons.inj h).2
  | case5 c cs s ss c' hs hc =>
      rw [List.filterMap_cons, hs] at h
      apply absurd (List.cons.inj h).1 hc

/-! ### What is left below a directory -/

theorem snd_start_suffix (ss : List (List Char)) :
  (start ss).2 <:+ ss
  := by
  fun_cases start ss with
  | case1 => apply List.suffix_cons
  | case2 => apply List.suffix_cons
  | case3 => apply List.suffix_refl

/-- What is left below a directory that steps lead to are the pieces after them, without the
pieces at either end that stand for no step. -/
theorem pieces_below (hbase : base.components ≠ []) (h : base.below p = some r) :
  ∃ ss, (∀ s ∈ ss, s ∈ p.segments) ∧ r = ofSegments (trimSegments ss)
    ∧ p.components = base.components ++ ss.filterMap step?
  := by
  obtain ⟨c, cs, hcs⟩ := List.exists_cons_of_ne_nil hbase
  have hsuffix := snd_start_suffix p.segments
  rcases hstart : start p.segments with ⟨first, rest⟩
  simp only [below, hcs, hstart] at h
  simp only [hstart] at hsuffix
  obtain ⟨ss, hss, rfl⟩ := Option.map_eq_some_iff.mp h
  use ss
  rw [components, hstart, hcs]
  cases first with
  | none =>
      use fun s hs => hsuffix.subset ((dropSteps_suffix hss).subset hs), rfl
      apply filterMap_dropSteps hss
  | some d =>
      simp only at hss
      split_ifs at hss with hd
      use fun s hs => hsuffix.subset ((dropSteps_suffix hss).subset hs), rfl
      simp [hd, filterMap_dropSteps hss]

/-- Something is left of every path that starts with the steps of the directory. -/
theorem exists_below (h : p.components = base.components ++ ds) :
  ∃ r, base.below p = some r
  := by
  rcases hstart : start p.segments with ⟨first, rest⟩
  rw [components, hstart] at h
  cases hbase : base.components with
  | nil =>
      use p.withoutTrailing
      simp only [below, hbase]
  | cons c cs =>
      simp only [below, hbase, hstart, Option.map_eq_some_iff]
      rw [hbase] at h
      cases first with
      | none =>
          obtain ⟨ts, hts⟩ := exists_dropSteps h
          exact ⟨_, ts, hts, rfl⟩
      | some d =>
          obtain ⟨hd, h⟩ := List.cons.inj h
          obtain ⟨ts, hts⟩ := exists_dropSteps h
          exact ⟨_, ts, (if_pos hd).trans hts, rfl⟩

/-- A path below a directory has the steps of the directory and then those of what is left. -/
theorem components_below (h : base.below p = some r) :
  p.components = base.components ++ r.components
  := by
  by_cases hbase : base.components = []
  · have hr : base.below p = some p.withoutTrailing := by
      simp only [below, hbase]
    rw [hr, Option.some.injEq] at h
    rw [← h, components_withoutTrailing, hbase, List.nil_append]
  · obtain ⟨ss, hss, rfl, hp⟩ := pieces_below hbase h
    rw [hp, components_ofSegments_trimSegments]
    intro s hs
    apply not_mem_of_mem_segments (hss s hs)

theorem step?_ne_root (s : List Char) :
  step? s ≠ some .root
  := by
  fun_cases step? s <;> simp

theorem root_mem_components (hp : p.isAbsolute) :
  .root ∈ p.components
  := by
  obtain ⟨cs, hcs⟩ := List.head?_eq_some_iff.mp (of_decide_eq_true hp)
  rw [components_eq, segments, hcs, splitSlashes, if_pos rfl,
    fst_start_nil_cons (splitSlashes_ne_nil cs)]
  apply List.mem_cons_self

/-- What is left below a directory that steps lead to is a relative path. -/
theorem not_isAbsolute_of_below (hbase : base.components ≠ []) (h : base.below p = some r) :
  ¬ r.isAbsolute
  := by
  obtain ⟨ss, hss, rfl, -⟩ := pieces_below hbase h
  intro habsolute
  have hroot := root_mem_components habsolute
  rw [components_ofSegments_trimSegments fun s hs => not_mem_of_mem_segments (hss s hs)] at hroot
  obtain ⟨s, -, hs⟩ := List.mem_filterMap.mp hroot
  apply step?_ne_root s hs

/-! ### Paths shown without a directory -/

/-- A path as it is shown to someone in the directory: what is left of it there, or else all of
it. -/
def shownFrom (base p : Path) : Path := (base.below p).getD p

/-- Of a path that is read from a directory nothing is left only if it is absolute. -/
theorem isAbsolute_of_below_join (h : base.below (base.join p) = none) :
  (base.join p).isAbsolute
  := by
  by_contra habsolute
  have hexists : ∃ r, base.below (base.join p) = some r := by
    by_cases hempty : base.text = ""
    · obtain rfl : base = ⟨""⟩ := congrArg Path.mk hempty
      have hsteps : (Path.join ⟨""⟩ p).components
          = Path.components ⟨""⟩ ++ (Path.join ⟨""⟩ p).components := rfl
      apply exists_below hsteps
    · by_cases hp : p.isAbsolute
      · rw [join, if_pos hp] at habsolute
        cases habsolute hp
      · apply exists_below (components_join hempty hp)
  obtain ⟨r, hr⟩ := hexists
  cases h.symm.trans hr

/-- Paths that are read from a directory, and look alike when shown without it, lead to the same
place. -/
theorem same_of_shown_join (h : base.shownFrom (base.join p) = base.shownFrom (base.join q)) :
  (base.join p).Same (base.join q)
  := by
  -- A relative path cannot look like an absolute one.
  have apart {p q r : Path} (hp : base.below (base.join p) = some r)
      (hq : base.below (base.join q) = none) : r ≠ base.join q := by
    rintro rfl
    have hbase : base.components ≠ [] := by
      intro hnil
      simp only [below, hnil] at hq
      cases hq
    apply not_isAbsolute_of_below hbase hp (isAbsolute_of_below_join hq)
  unfold shownFrom at h
  cases hp : base.below (base.join p) with
  | none =>
      cases hq : base.below (base.join q) with
      | none =>
          rw [hp, hq] at h
          apply congrArg components h
      | some t =>
          rw [hp, hq] at h
          apply absurd h.symm (apart hq hp)
  | some r =>
      cases hq : base.below (base.join q) with
      | none =>
          rw [hp, hq] at h
          apply absurd h (apart hp hq)
      | some t =>
          rw [hp, hq] at h
          obtain rfl : r = t := h
          rw [Same, components_below hp, components_below hq]

end Path

end Recompile
