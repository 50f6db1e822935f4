import Mathlib.Tactic.SplitIfs
import Recompile.Proofs.Dependency.DependsOn

/-!
# Searching backward

Breadth-first search over a list of edges, against their direction. It finds what leads to a
node along one or more edges, and so all that depends on the node.
-/

namespace Recompile

variable {α : Type*} [DecidableEq α] {edges : List (α × α)} {seen queue : List α} {a b x : α}

/-- Where the edges into a node come from, in the order of the edges. -/
def predecessors (edges : List (α × α)) (x : α) : List α :=
  (edges.filter fun e => e.2 = x).map Prod.fst

/-- The predecessors of a file are those with an edge to it. -/
theorem mem_predecessors :
  a ∈ predecessors edges x ↔ (a, x) ∈ edges
  := by
  simp [predecessors]

/-- The edges into nodes that have not been seen. -/
def unseen (edges : List (α × α)) (seen : List α) : List (α × α) :=
  edges.filter fun e => e.2 ∉ seen

/-- Seeing a new node uses up the edges into it. -/
theorem length_unseen_cons (edges : List (α × α)) (hx : x ∉ seen) :
  (unseen edges (x :: seen)).length + (predecessors edges x).length
    = (unseen edges seen).length
  := by
  induction edges with
  | nil => rfl
  | cons e edges ih =>
      simp only [unseen, predecessors, List.length_map, List.filter_cons, List.mem_cons, not_or,
        decide_not, Bool.decide_and] at ih ⊢
      by_cases hex : e.2 = x
      · subst hex
        simp [hx]
        omega
      · by_cases he : e.2 ∈ seen
        · simp [hex, he, ih]
        · simp [hex, he]
          omega

/-- Takes the nodes off a queue in turn. One that is new is seen, and the nodes with an edge to
it queue up. -/
def search (edges : List (α × α)) (seen : List α) : List α → List α
  | [] => seen
  | x :: queue =>
    if x ∈ seen then search edges seen queue
    else search edges (x :: seen) (queue ++ predecessors edges x)
termination_by queue => (unseen edges seen).length + queue.length
decreasing_by
  · simp
  · next hx =>
    have h := length_unseen_cons edges hx
    simp only [List.length_append, List.length_cons]
    omega

/-- All nodes found by a search that starts from the edges into `x`. -/
def searchBack (edges : List (α × α)) (x : α) : List α := search edges [] (predecessors edges x)

/-! ### What is found -/

/-- Only what has an edge path to a node of the queue is found. -/
theorem search_sound (h : a ∈ search edges seen queue) :
  a ∈ seen ∨ ∃ b ∈ queue, Relation.ReflTransGen (fun a b => (a, b) ∈ edges) a b
  := by
  fun_induction search edges seen queue with
  | case1 seen => simp [h]
  | case2 seen x queue hx ih =>
      rcases ih h with h | ⟨b, hb, hab⟩
      · left
        apply h
      · right
        use b, List.mem_cons_of_mem x hb
  | case3 seen x queue hx ih =>
      rcases ih h with h | ⟨b, hb, hab⟩
      · rcases List.mem_cons.mp h with rfl | h
        · right
          use a, List.mem_cons_self
        · left
          apply h
      · right
        rcases List.mem_append.mp hb with hb | hb
        · use b, List.mem_cons_of_mem x hb
        · use x, List.mem_cons_self
          apply hab.tail (mem_predecessors.mp hb)

theorem mem_search_of_seen (h : a ∈ seen) :
  a ∈ search edges seen queue
  := by
  fun_induction search edges seen queue with
  | case1 seen => apply h
  | case2 seen x queue hx ih => apply ih h
  | case3 seen x queue hx ih => apply ih (List.mem_cons_of_mem x h)

/-- A search finds what it starts from. -/
theorem mem_search_of_queue (h : a ∈ queue) :
  a ∈ search edges seen queue
  := by
  fun_induction search edges seen queue with
  | case1 seen => cases h
  | case2 seen x queue hx ih =>
      rcases List.mem_cons.mp h with rfl | h
      · apply mem_search_of_seen hx
      · apply ih h
  | case3 seen x queue hx ih =>
      rcases List.mem_cons.mp h with rfl | h
      · apply mem_search_of_seen List.mem_cons_self
      · apply ih (List.mem_append_left _ h)

/-- As long as the nodes before a seen one are seen or in the queue, the nodes before a found
one are found. -/
theorem search_closed (inv : ∀ b ∈ seen, ∀ a, (a, b) ∈ edges → a ∈ seen ∨ a ∈ queue)
    (hab : (a, b) ∈ edges) (hb : b ∈ search edges seen queue) :
  a ∈ search edges seen queue
  := by
  fun_induction search edges seen queue with
  | case1 seen =>
      rcases inv b hb a hab with h | h
      · apply h
      · cases h
  | case2 seen x queue hx ih =>
      apply ih _ hb
      intro b hb a hab
      rcases inv b hb a hab with h | h
      · left
        apply h
      · rcases List.mem_cons.mp h with rfl | h
        · left
          apply hx
        · right
          apply h
  | case3 seen x queue hx ih =>
      apply ih _ hb
      intro b hb a hab
      rcases List.mem_cons.mp hb with rfl | hb
      · right
        apply List.mem_append_right
        apply mem_predecessors.mpr hab
      · rcases inv b hb a hab with h | h
        · left
          apply List.mem_cons_of_mem x h
        · rcases List.mem_cons.mp h with rfl | h
          · left
            apply List.mem_cons_self
          · right
            apply List.mem_append_left _ h

/-- A search finds exactly what leads to a node along one or more edges. -/
theorem mem_searchBack :
  a ∈ searchBack edges x ↔ Relation.TransGen (fun a b => (a, b) ∈ edges) a x
  := by
  constructor
  · intro h
    rcases search_sound h with h | ⟨b, hb, hab⟩
    · cases h
    · apply Relation.TransGen.tail' hab (mem_predecessors.mp hb)
  · intro h
    induction h using Relation.TransGen.head_induction_on with
    | single h =>
        apply mem_search_of_queue
        apply mem_predecessors.mpr h
    | head h _ ih =>
        apply search_closed _ h ih
        intro b hb
        cases hb

/-- What depends on a node is what a search finds besides the node itself, and the node if it
has an edge to itself. -/
theorem dependsOn_iff_searchBack :
  DependsOn (fun a b => (a, b) ∈ edges) a x
    ↔ a ≠ x ∧ a ∈ searchBack edges x ∨ a = x ∧ (x, x) ∈ edges
  := by
  rw [mem_searchBack, DependsOn]
  by_cases h : a = x
  · subst h
    simp
  · simp [h]

end Recompile
