import Mathlib.Logic.Relation

/-!
# Direct and indirect dependency

What depends on what, directly or not, given the direct dependencies: two different files are
related by one or more steps, and a file depends on itself only by a step of its own. A circle
alone makes no file depend on itself.
-/

namespace Recompile

variable {α : Type*} {R S : α → α → Prop} {a b : α}

/-- One or more steps lead from `a` to `b`, a single one if they are the same. -/
def DependsOn (R : α → α → Prop) (a b : α) : Prop :=
  a ≠ b ∧ Relation.TransGen R a b ∨ a = b ∧ R a a

/-- Between two different files any number of steps counts. -/
theorem dependsOn_iff_of_ne (h : a ≠ b) :
  DependsOn R a b ↔ Relation.TransGen R a b
  := by
  simp [DependsOn, h]

/-- A file depends on itself only by a step of its own. -/
theorem dependsOn_self :
  DependsOn R a a ↔ R a a
  := by
  simp [DependsOn]

theorem DependsOn.of_step (h : R a b) :
  DependsOn R a b
  := by
  by_cases hab : a = b
  · subst hab
    apply dependsOn_self.mpr h
  · apply (dependsOn_iff_of_ne hab).mpr (Relation.TransGen.single h)

/-- A dependency is a path of steps in either case. -/
theorem DependsOn.transGen (h : DependsOn R a b) :
  Relation.TransGen R a b
  := by
  rcases h with ⟨-, h⟩ | ⟨rfl, h⟩
  · apply h
  · apply Relation.TransGen.single h

/-- More steps make no fewer dependencies. -/
theorem DependsOn.mono (hRS : ∀ a b, R a b → S a b) (h : DependsOn R a b) :
  DependsOn S a b
  := by
  rcases h with ⟨hab, h⟩ | ⟨hab, h⟩
  · left
    use hab
    apply Relation.TransGen.mono hRS _ _ h
  · right
    use hab
    apply hRS a a h

/-- Steps that are dependencies already add no dependencies. -/
theorem dependsOn_congr (hRS : ∀ a b, R a b → S a b) (hSR : ∀ a b, S a b → DependsOn R a b) :
  DependsOn S a b ↔ DependsOn R a b
  := by
  constructor
  · intro h
    by_cases hab : a = b
    · subst hab
      apply hSR a a (dependsOn_self.mp h)
    · rw [dependsOn_iff_of_ne hab]
      apply Relation.TransGen.closed (fun a b h => (hSR a b h).transGen) _ _ h.transGen
  · apply DependsOn.mono hRS

end Recompile
