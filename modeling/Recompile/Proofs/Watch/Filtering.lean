import Mathlib.Data.List.Basic
import Recompile.Watch.Event
import Recompile.Proofs.Joining

/-!
# The filter of watch events

A project is watched by its root, so the paths of its notices are joined to the root. What is
ignored should be told by the place of a file in the project (`FiltersBelow`). The filter looks at
the whole path: it is true to the project as long as no step to the root has an ignored name, and
lets nothing through otherwise.
-/

namespace Recompile

namespace Path

variable {p : Path}

/-- A path is ignored exactly if one of its steps has an ignored name. -/
theorem isIgnored_iff :
  p.isIgnored ↔ ∃ name ∈ ignoredNames, .name name ∈ p.components
  := by
  rw [isIgnored, List.any_eq_true]
  constructor
  · rintro ⟨c, hc, hignored⟩
    cases c with
    | name name =>
        use name, List.contains_iff_mem.mp hignored, hc
    | root | here | up => cases hignored
  · rintro ⟨name, hname, hc⟩
    use .name name, hc, List.contains_iff_mem.mpr hname

/-- A file below a directory is ignored if either is. -/
theorem isIgnored_join (base : Path) (hp : ¬ p.isAbsolute) :
  (base.join p).isIgnored ↔ base.isIgnored ∨ p.isIgnored
  := by
  by_cases hbase : base.text = ""
  · have hempty : ¬ base.isIgnored := by
      obtain rfl : base = ⟨""⟩ := congrArg Path.mk hbase
      decide
    rw [join_of_empty hbase, or_iff_right hempty]
  · simp only [isIgnored_iff, components_join hbase hp, List.mem_append, List.mem_filter,
      decide_eq_true_eq, ne_eq, reduceCtorEq, not_false_eq_true, and_true, and_or_left, exists_or]

end Path

namespace Notice

variable {root : Path} {n : Notice} {notices : List Notice}

/-! ### Notices of a project -/

/-- A notice about a project, whose paths are read from the root. -/
def under (root : Path) (n : Notice) : Notice := { n with paths := n.paths.map root.join }

/-- One event for each path, unless the path itself has an ignored name. -/
def eventsBelow (root : Path) (n : Notice) : List Event :=
  match n.kind with
  | none => []
  | some kind =>
    (n.paths.filter fun p => ¬ ∃ name ∈ ignoredNames, .name name ∈ p.components).map
      fun p => ⟨kind, root.join p⟩

/-- All paths of a notice are relative. -/
def Relative (n : Notice) : Prop := ∀ p ∈ n.paths, ¬ p.isAbsolute

/-- Each path of a notice is judged on its own. -/
theorem events_eq_flatMap (n : Notice) :
  n.events = n.paths.flatMap fun p => Notice.events ⟨n.kind, [p]⟩
  := by
  obtain ⟨kind, paths⟩ := n
  cases kind with
  | none => simp [events]
  | some kind =>
      rw [events]
      induction paths with
      | nil => rfl
      | cons p paths ih =>
          rw [List.flatMap_cons, ← ih, events, ← List.map_append, ← List.filter_append]
          rfl

/-- Below a root without ignored names, what a notice says of a path depends on the part below the
root. -/
theorem events_under (hroot : ¬ root.isIgnored) (hn : n.Relative) :
  (n.under root).events = n.eventsBelow root
  := by
  obtain ⟨kind, paths⟩ := n
  cases kind with
  | none => rfl
  | some kind =>
      simp only [events, under, eventsBelow]
      rw [List.filter_map, List.map_map]
      apply congrArg
      apply List.filter_congr
      intro p hp
      have hjoin := Path.isIgnored_join root (hn p hp)
      rw [or_iff_right hroot, Path.isIgnored_iff (p := p)] at hjoin
      simp only [Function.comp_apply, ← hjoin, Bool.not_eq_true, Bool.decide_eq_false]

/-- Below any other root there are no events. -/
theorem events_under_of_isIgnored (hroot : root.isIgnored) (hn : n.Relative) :
  (n.under root).events = []
  := by
  obtain ⟨kind, paths⟩ := n
  cases kind with
  | none => rfl
  | some kind =>
      simp only [events, under]
      rw [List.map_eq_nil_iff, List.filter_eq_nil_iff]
      intro q hq
      obtain ⟨p, hp, rfl⟩ := List.mem_map.mp hq
      have hjoin := Path.isIgnored_join root (hn p hp)
      simp [hjoin.mpr (.inl hroot)]

end Notice

/-! ### Projects and where they are -/

/-- The events of a project are told by the places of its files in the project, in the order of the
notices and of their paths. -/
def FiltersBelow (root : Path) : Prop :=
  ∀ notices : List Notice, (∀ n ∈ notices, n.Relative) →
    (notices.map (Notice.under root)).flatMap Notice.events
      = notices.flatMap (Notice.eventsBelow root)

variable {root : Path}

theorem filtersBelow_of_not_isIgnored (hroot : ¬ root.isIgnored) :
  FiltersBelow root
  := by
  intro notices hrelative
  rw [List.flatMap_map]
  apply List.flatMap_congr
  intro n hn
  apply Notice.events_under hroot (hrelative n hn)

/-- A new file of a project. -/
def newFile : Notice := ⟨some .created, [⟨"main"⟩]⟩

theorem newFile_relative :
  newFile.Relative
  := by
  intro p hp
  obtain rfl := List.mem_singleton.mp hp
  decide

theorem FiltersBelow.not_isIgnored (h : FiltersBelow root) :
  ¬ root.isIgnored
  := by
  intro hroot
  have hlost := h [newFile] fun n hn => List.mem_singleton.mp hn ▸ newFile_relative
  rw [List.map_singleton, List.flatMap_singleton, List.flatMap_singleton,
    Notice.events_under_of_isIgnored hroot newFile_relative] at hlost
  cases hlost

/-- The filter is true to a project exactly if the root has no ignored name in it. Otherwise no
change of the project becomes an event, wherever it is. In either case each path is judged on its
own, in the order of the notices and of their paths. -/
theorem filtersBelow_iff (root : Path) :
  (FiltersBelow root ↔ ¬ ∃ name ∈ ignoredNames, .name name ∈ root.components)
    ∧ ((∃ name ∈ ignoredNames, .name name ∈ root.components) →
        ∀ notices : List Notice, (∀ n ∈ notices, n.Relative) →
          (notices.map (Notice.under root)).flatMap Notice.events = [])
    ∧ ∀ notices : List Notice, notices.flatMap Notice.events
        = notices.flatMap fun n => n.paths.flatMap fun p => Notice.events ⟨n.kind, [p]⟩
  := by
  rw [← Path.isIgnored_iff]
  constructor
  · use FiltersBelow.not_isIgnored, filtersBelow_of_not_isIgnored
  constructor
  · intro hroot notices hrelative
    rw [List.flatMap_map, List.flatMap_eq_nil_iff]
    intro n hn
    apply Notice.events_under_of_isIgnored hroot (hrelative n hn)
  · intro notices
    apply List.flatMap_congr
    intro n _
    apply Notice.events_eq_flatMap

/-- A project in a directory that is called like those the filter ignores. -/
def targetProject : Path := ⟨"/work/target/app"⟩

/-- A file that is made in the project becomes no event, though no step to it in the project has an
ignored name. -/
theorem targetProject_not_filtersBelow :
  targetProject.isAbsolute
    ∧ Notice.events (Notice.under targetProject ⟨some .created, [⟨"src/main"⟩]⟩) = []
    ∧ Notice.eventsBelow targetProject ⟨some .created, [⟨"src/main"⟩]⟩
      = [⟨.created, ⟨"/work/target/app/src/main"⟩⟩]
    ∧ ¬ FiltersBelow targetProject
  := by
  have hroot : targetProject.isIgnored := by decide
  use by decide, by decide, by decide, fun h => h.not_isIgnored hroot

end Recompile
