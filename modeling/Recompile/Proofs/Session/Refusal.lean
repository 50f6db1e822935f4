import Recompile.Proofs.Session.Steps

/-!
# Refused dependencies

A dependency is to be added as a whole or not at all: reported to the log and, in suggest mode, put
into the graph, or refused with everything left as it was (`Session.AddsWhole`). A module of another
file's slot and a dependency that is not known are refused in time. A module without a number is
not: its dependency reaches the log in both modes, and only the graph refuses it, if there is one.
-/

namespace Recompile

/-- A log that is kept changes with every record. -/
theorem Store.record_eq_self_iff {store : Store} {r : EdgeRecord} :
  store.record r = store ↔ store = .discarding
  := by
  cases store with
  | discarding => exact iff_of_true rfl rfl
  | keeping log =>
      apply iff_of_false
      · intro h
        have hsize := congrArg Array.size (Store.keeping.inj h)
        rw [Array.size_push] at hsize
        omega
      · rintro ⟨⟩

namespace Session

variable {s : Session} {m : CompiledModule} {dependency : FileId}

/-- A module is in its own slot, and both ends of its dependency are known. -/
structure Sound (m : CompiledModule) (dependency : FileId) : Prop where
  origin : m.id = m.origin
  module : m.id.isKnown
  dependency : dependency.isKnown

/-- The dependency is accepted exactly if it is sound. Then it is reported by one record and, in
suggest mode only, put into the graph, and nothing else is changed. If it is refused, nothing is
changed at all. -/
structure AddsWhole (s : Session) (m : CompiledModule) (dependency : FileId) : Prop where
  done_iff : (s.step (.addDep m dependency)).2 = .done ↔ Sound m dependency
  accepted : Sound m dependency →
    ∃ graph, (s.step (.addDep m dependency)).1
        = { s with store := s.store.record ⟨m.id, dependency, .direct⟩, graph }
      ∧ (s.suggests → ∀ a b, graph.contains a b
          ↔ s.graph.contains a b ∨ a = m.id ∧ b = dependency)
      ∧ (¬ s.suggests → graph = s.graph)
  refused : ¬ Sound m dependency →
    ∃ cause, s.step (.addDep m dependency) = (s, .fault cause)

/-! ### The three ways it can go -/

/-- A sound dependency is reported by one record and, in suggest mode, put into the graph. -/
theorem step_addDep_of_sound (h : Sound m dependency) :
  ∃ graph, s.step (.addDep m dependency)
      = ({ s with store := s.store.record ⟨m.id, dependency, .direct⟩, graph }, .done)
    ∧ (s.suggests → ∀ a b, graph.contains a b
        ↔ s.graph.contains a b ∨ a = m.id ∧ b = dependency)
    ∧ (¬ s.suggests → graph = s.graph)
  := by
  obtain ⟨added, graph, hinsert⟩ :=
    DependencyGraph.insert_eq_ok (g := s.graph) h.module h.dependency
  have hstep : s.graph.step (.insert m.id dependency) = (graph, .flag added) := by
    rw [DependencyGraph.step, hinsert]
  use if s.suggests then graph else s.graph
  constructor
  · have hadd : s.addDep m dependency
        = ({ s with
              store := s.store.record ⟨m.id, dependency, .direct⟩
              graph := if s.suggests then graph else s.graph }, .ok ()) := by
      apply Prod.ext
      · rw [fst_addDep, if_pos ⟨h.origin, h.dependency⟩, hstep]
      · rw [snd_addDep, if_neg (not_not_intro h.origin), if_neg (by simp [h.dependency]), hinsert]
        split_ifs <;> rfl
    rw [step, hadd]
  constructor
  · intro hmode a b
    rw [if_pos hmode]
    apply DependencyGraph.contains_insert hinsert
  · intro hmode
    rw [if_neg hmode]

/-- What is refused before it is reported changes nothing. -/
theorem step_addDep_refused (h : ¬ (m.id = m.origin ∧ dependency.isKnown)) :
  ∃ cause, s.step (.addDep m dependency) = (s, .fault cause)
  := by
  have hfst : (s.addDep m dependency).1 = s := by rw [fst_addDep, if_neg h]
  obtain ⟨cause, hsnd⟩ : ∃ cause, (s.addDep m dependency).2 = .error cause := by
    by_cases horigin : m.id = m.origin
    · have hunknown : ¬ dependency.isKnown := fun hdependency => h ⟨horigin, hdependency⟩
      use .unknownDependency m.name
      rw [snd_addDep, if_neg (not_not_intro horigin), if_pos (by simp [hunknown])]
    · use .wrongOrigin m.name m.id m.origin
      rw [snd_addDep, if_pos horigin]
  use cause
  have hadd : s.addDep m dependency = (s, .error cause) := Prod.ext hfst hsnd
  rw [step, hadd]

/-- The dependency of a module without a number is reported before the graph can refuse it. -/
theorem step_addDep_unnumbered (horigin : m.id = m.origin) (hmodule : ¬ m.id.isKnown)
    (hdependency : dependency.isKnown) :
  s.step (.addDep m dependency)
    = ({ s with store := s.store.record ⟨m.id, dependency, .direct⟩ },
        if s.suggests then .fault (.unencodableEdge m.id dependency) else .done)
  := by
  have hinsert : s.graph.insert m.id dependency = .error (.unencodableEdge m.id dependency) :=
    DependencyGraph.insert_eq_error fun h => hmodule h.1
  have hstep : (s.graph.step (.insert m.id dependency)).1 = s.graph := by
    rw [DependencyGraph.step, hinsert]
  have hadd : s.addDep m dependency
      = ({ s with store := s.store.record ⟨m.id, dependency, .direct⟩ },
          if s.suggests then .error (.unencodableEdge m.id dependency) else .ok ()) := by
    apply Prod.ext
    · rw [fst_addDep, if_pos ⟨horigin, hdependency⟩, hstep, ite_self]
    · rw [snd_addDep, if_neg (not_not_intro horigin), if_neg (by simp [hdependency]), hinsert]
      rfl
  rw [step, hadd]
  split_ifs <;> rfl

/-! ### All or nothing -/

theorem addsWhole_of_sound (h : Sound m dependency) :
  s.AddsWhole m dependency
  := by
  obtain ⟨graph, hstep, hgraph⟩ := step_addDep_of_sound (s := s) h
  exact {
    done_iff := by
      rw [hstep]
      exact iff_of_true rfl h
    accepted := by
      intro _
      use graph, congrArg Prod.fst hstep
    refused := fun hn => absurd h hn }

theorem addsWhole_of_refused (h : ¬ Sound m dependency) {cause : Fault}
    (hstep : s.step (.addDep m dependency) = (s, .fault cause)) :
  s.AddsWhole m dependency
  where
  done_iff := by
    rw [hstep]
    apply iff_of_false
    · rintro ⟨⟩
    · apply h
  accepted hs := absurd hs h
  refused _ := ⟨cause, hstep⟩

/-- Without a number for the module, only a session with a graph and without a log adds the
dependency as a whole or not at all. -/
theorem addsWhole_of_unnumbered_iff (horigin : m.id = m.origin) (hmodule : ¬ m.id.isKnown)
    (hdependency : dependency.isKnown) :
  s.AddsWhole m dependency ↔ s.suggests ∧ s.store = .discarding
  := by
  have hsound : ¬ Sound m dependency := fun h => hmodule h.module
  have hstep := step_addDep_unnumbered (s := s) horigin hmodule hdependency
  constructor
  · intro h
    obtain ⟨cause, hrefused⟩ := h.refused hsound
    rw [hstep] at hrefused
    obtain ⟨hstate, hanswer⟩ := Prod.mk.inj hrefused
    constructor
    · by_contra hmode
      rw [if_neg hmode] at hanswer
      cases hanswer
    · apply Store.record_eq_self_iff.mp
      apply congrArg store hstate
  · rintro ⟨hmode, hstore⟩
    rw [if_pos hmode, Store.record_eq_self_iff.mpr hstore] at hstep
    apply addsWhole_of_refused hsound hstep

/-- A dependency is added as a whole or not at all, unless the module has no number, is in its own
slot for all that, and the dependency is known. Then it is reported to the log all the same: in
batch mode it is accepted, and in suggest mode it is refused when it is in the log already. -/
theorem addsWhole_iff (s : Session) (m : CompiledModule) (dependency : FileId) :
  (s.AddsWhole m dependency
      ↔ ¬ (m.id = m.origin ∧ ¬ m.id.isKnown ∧ dependency.isKnown)
        ∨ s.suggests ∧ s.store = .discarding)
    ∧ (m.id = m.origin → ¬ m.id.isKnown → dependency.isKnown →
        s.step (.addDep m dependency)
          = ({ s with store := s.store.record ⟨m.id, dependency, .direct⟩ },
              if s.suggests then .fault (.unencodableEdge m.id dependency) else .done))
  := by
  constructor
  · by_cases hunnumbered : m.id = m.origin ∧ ¬ m.id.isKnown ∧ dependency.isKnown
    · rw [or_iff_right (not_not_intro hunnumbered)]
      obtain ⟨horigin, hmodule, hdependency⟩ := hunnumbered
      apply addsWhole_of_unnumbered_iff horigin hmodule hdependency
    · apply iff_of_true
      · by_cases hearly : m.id = m.origin ∧ dependency.isKnown
        · obtain ⟨horigin, hdependency⟩ := hearly
          apply addsWhole_of_sound
          exact {
            origin := horigin
            module := by
              by_contra hmodule
              apply hunnumbered ⟨horigin, hmodule, hdependency⟩
            dependency := hdependency }
        · obtain ⟨cause, hstep⟩ := step_addDep_refused (s := s) hearly
          apply addsWhole_of_refused _ hstep
          intro h
          apply hearly ⟨h.origin, h.dependency⟩
      · left
        apply hunnumbered
  · apply step_addDep_unnumbered

/-- A module without a number. -/
def unnumbered : CompiledModule := CompiledModule.fresh .unknown "m-1"

/-- In neither mode is the dependency of a module without a number added as a whole or not at
all. -/
theorem unnumbered_not_addsWhole :
  ¬ AddsWhole { new { mode := .suggest } with store := .keeping #[] } unnumbered (.ofIndex 0)
    ∧ ¬ AddsWhole { new { mode := .batch } with store := .keeping #[] } unnumbered (.ofIndex 0)
  := by
  have hmodule : ¬ unnumbered.id.isKnown := by decide
  have hdependency : (FileId.ofIndex 0).isKnown := by decide
  rw [addsWhole_of_unnumbered_iff rfl hmodule hdependency,
    addsWhole_of_unnumbered_iff rfl hmodule hdependency]
  constructor
  · rintro ⟨-, ⟨⟩⟩
  · rintro ⟨⟨⟩, -⟩

end Session

end Recompile
