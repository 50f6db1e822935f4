import Recompile.Dependency.Graph
import Recompile.Proofs.Dependency.Pivots

/-!
# What a graph records

A graph records a relation `D` when its edges lie between `D` and the dependencies that follow
from `D`, and are all of the latter once the graph is closed (`Records`). Adding an edge and
closing keep this up, and the answers of a graph that records `D` depend on `D` alone.
-/

namespace Recompile

open EdgeSet (Edge Within)
open FileId (Ascending)

namespace DependencyGraph

variable {g g' : DependencyGraph} {D D' : FileId → FileId → Prop} {a b x : FileId}

/-! ### The edges of a graph -/

/-- The edges that are listed are those that have a key. -/
theorem mem_edges :
  (a, b) ∈ g.edges ↔ Edge g.keys a b
  := by
  rw [edges, List.mem_map]
  constructor
  · rintro ⟨k, hk, hab⟩
    obtain ⟨rfl, rfl⟩ := Prod.mk.inj hab
    rw [Edge, EdgeKey.pack_decode]
    apply Std.TreeSet.mem_toList.mp hk
  · intro h
    use EdgeKey.pack a b, Std.TreeSet.mem_toList.mpr h
    apply EdgeKey.decode_pack

/-- The sources of `x` are the files with an edge to it. -/
theorem mem_sources :
  a ∈ g.sources x ↔ Edge g.keys a x
  := by
  simp [sources, mem_edges]

/-- The targets of `x` are the files it has an edge to. -/
theorem mem_targets :
  b ∈ g.targets x ↔ Edge g.keys x b
  := by
  simp [targets, mem_edges]

/-- The graph is asked for an edge between known files only, and has it if it has the key. -/
theorem contains_iff :
  g.contains a b ↔ (a.isKnown ∧ b.isKnown) ∧ Edge g.keys a b
  := by
  by_cases h : a.isKnown ∧ b.isKnown
  · rw [contains, EdgeKey.encode_of_isKnown h.1 h.2]
    simp [h, Edge]
  · simp [contains, EdgeKey.encode, h]

/-! ### The invariant -/

/-- The graph `g` records the direct dependencies `D`. -/
structure Records (g : DependencyGraph) (D : FileId → FileId → Prop) : Prop where
  bound_le : g.bound ≤ 2 ^ 31
  within : Within g.keys g.bound
  direct : ∀ a b, D a b → Edge g.keys a b
  derived : ∀ a b, Edge g.keys a b → DependsOn D a b
  closed : g.isOpen = false → ∀ a b, DependsOn D a b → Edge g.keys a b

/-- Only known files are in a recorded dependency. -/
theorem Records.isKnown (hg : g.Records D) (h : Edge g.keys a b) :
  a.isKnown ∧ b.isKnown
  := by
  obtain ⟨⟨ha, -⟩, hb, -⟩ := hg.within.edge hg.bound_le h
  use ha, hb

theorem Records.contains_iff (hg : g.Records D) :
  g.contains a b ↔ Edge g.keys a b
  := by
  rw [DependencyGraph.contains_iff]
  constructor
  · apply And.right
  · intro h
    use hg.isKnown h

/-- In a closed graph the edges are the dependencies. -/
theorem Records.edge_iff (hg : g.Records D) (hopen : g.isOpen = false) :
  Edge g.keys a b ↔ DependsOn D a b
  := by
  constructor
  · apply hg.derived
  · apply hg.closed hopen

/-- What a graph records matters only up to which files depend on which. -/
theorem Records.congr (hg : g.Records D) (h : ∀ a b, D' a b ↔ D a b) :
  g.Records D'
  := by
  have hD : D' = D := by
    funext a b
    rw [h]
  rw [hD]
  apply hg

/-- The empty graph records nothing. -/
theorem records_empty :
  empty.Records fun _ _ => False
  where
  bound_le := Nat.zero_le _
  within key h := absurd h Std.TreeSet.not_mem_emptyc
  direct _ _ h := h.elim
  derived a b h := absurd h Std.TreeSet.not_mem_emptyc
  closed _ a b h := by
    rcases h with ⟨-, h⟩ | ⟨-, h⟩
    · induction h with
      | single h => apply h.elim
      | tail _ h _ => apply h.elim
    · apply h.elim

/-- Edges come in the order of their keys, and so do the files picked from them in this
order. -/
theorem Records.ascending (hg : g.Records D) {p : FileId × FileId → Bool}
    {pick : FileId × FileId → FileId}
    (hpick : ∀ a b a' b', a.isKnown ∧ b.isKnown → a'.isKnown ∧ b'.isKnown →
      p (a, b) → p (a', b') → compare (EdgeKey.pack a b) (EdgeKey.pack a' b') = .lt →
      pick (a, b) < pick (a', b')) :
  Ascending ((g.edges.filter p).map pick)
  := by
  rw [Ascending, List.pairwise_map, List.pairwise_filter, edges, List.pairwise_map]
  apply Std.TreeSet.ordered_toList.imp_of_mem
  intro k k' hk hk' hlt hp hp'
  rw [← k.pack_decode] at hk hlt
  rw [← k'.pack_decode] at hk' hlt
  have hknown := hg.isKnown (Std.TreeSet.mem_toList.mp hk)
  have hknown' := hg.isKnown (Std.TreeSet.mem_toList.mp hk')
  apply hpick _ _ _ _ hknown hknown' hp hp' hlt

/-- Sources come in order and once each. -/
theorem Records.sources_ascending (hg : g.Records D) (x : FileId) :
  Ascending (g.sources x)
  := by
  apply hg.ascending
  intro a b a' b' h h' hx hx' hlt
  obtain rfl : b = x := of_decide_eq_true hx
  obtain rfl : b' = b := of_decide_eq_true hx'
  apply EdgeKey.lt_of_compare_pack_right h.1 h'.1 hlt

/-- So do targets. -/
theorem Records.targets_ascending (hg : g.Records D) (x : FileId) :
  Ascending (g.targets x)
  := by
  apply hg.ascending
  intro a b a' b' h h' hx hx' hlt
  obtain rfl : a = x := of_decide_eq_true hx
  obtain rfl : a' = a := of_decide_eq_true hx'
  apply EdgeKey.lt_of_compare_pack_left h.2 h'.2 hlt

/-! ### Closing -/

/-- Closing a graph leaves it recording the same direct dependencies. -/
theorem Records.close (hg : g.Records D) :
  g.closed.Records D
  := by
  rw [DependencyGraph.closed]
  split_ifs with h
  · have edge {a b : FileId} : Edge (g.keys.closure g.bound) a b ↔ DependsOn D a b := by
      rw [EdgeSet.edge_closure hg.bound_le hg.within]
      apply dependsOn_congr hg.direct hg.derived
    exact {
      bound_le := hg.bound_le
      within := hg.within.closure
      direct := fun a b hab => edge.mpr (DependsOn.of_step hab)
      derived := fun a b hab => edge.mp hab
      closed := fun _ a b hab => edge.mpr hab }
  · apply hg

/-- A graph that has been closed is not open. -/
theorem isOpen_closed :
  g.closed.isOpen = false
  := by
  rw [DependencyGraph.closed]
  split_ifs with h
  · rfl
  · simpa using h

/-- The edges of the closed graph are the dependencies that follow from those recorded. -/
theorem Records.edge_closed_iff (hg : g.Records D) :
  Edge g.closed.keys a b ↔ DependsOn D a b
  := hg.close.edge_iff isOpen_closed

theorem Records.closed_contains_iff (hg : g.Records D) :
  g.closed.contains a b ↔ DependsOn D a b
  := by
  rw [hg.close.contains_iff, hg.edge_closed_iff]

/-! ### Adding an edge -/

theorem cover_eq (bound : Nat) (ha : a.isKnown) :
  cover bound a = max bound (a.place + 1)
  := by
  rw [cover, FileId.index_of_isKnown ha]

/-- The bound of a graph with a new edge covers the old edges and both ends of the new one. -/
theorem cover_le {bound : Nat} (h : bound ≤ 2 ^ 31) (ha : a.isKnown) (hb : b.isKnown) :
  cover (cover bound a) b ≤ 2 ^ 31 ∧ bound ≤ cover (cover bound a) b
    ∧ a.place < cover (cover bound a) b ∧ b.place < cover (cover bound a) b
  := by
  have ha' := a.place_lt
  have hb' := b.place_lt
  rw [cover_eq _ ha, cover_eq _ hb]
  omega

/-- Only an edge between known files can be added. -/
theorem insert_eq_error (h : ¬ (a.isKnown ∧ b.isKnown)) :
  g.insert a b = .error (.unencodableEdge a b)
  := by
  simp [insert, EdgeKey.encode, h]

/-- An edge between known files can always be added. -/
theorem insert_eq_ok (ha : a.isKnown) (hb : b.isKnown) :
  ∃ added g', g.insert a b = .ok (added, g')
  := by
  rw [insert, EdgeKey.encode_of_isKnown ha hb]
  by_cases h : g.keys.contains (EdgeKey.pack a b)
  · use false, g
    simp [h]
  · use true
    simp [h]

/-- Adding an edge that is there already changes nothing, and a new edge opens the graph. -/
theorem insert_cases {added : Bool} (h : g.insert a b = .ok (added, g')) :
  (a.isKnown ∧ b.isKnown)
    ∧ (Edge g.keys a b ∧ g' = g
      ∨ g' = ⟨g.keys.insert (EdgeKey.pack a b), true, cover (cover g.bound a) b⟩)
  := by
  by_cases hab : a.isKnown ∧ b.isKnown
  · use hab
    rw [insert, EdgeKey.encode_of_isKnown hab.1 hab.2] at h
    by_cases hk : g.keys.contains (EdgeKey.pack a b)
    · left
      simp only [hk, if_true, Except.ok.injEq, Prod.mk.injEq] at h
      use Std.TreeSet.mem_iff_contains.mpr hk, h.2.symm
    · right
      simp only [hk, Bool.false_eq_true, if_false, Except.ok.injEq, Prod.mk.injEq] at h
      apply h.2.symm
  · rw [insert_eq_error hab] at h
    cases h

theorem edge_insert {E : EdgeSet} {x y : FileId} :
  Edge (E.insert (EdgeKey.pack a b)) x y ↔ Edge E x y ∨ x = a ∧ y = b
  := by
  rw [Edge, Std.TreeSet.mem_insert, Std.compare_eq_iff_eq, EdgeKey.pack_inj, or_comm,
    eq_comm (a := a), eq_comm (a := b)]
  rfl

/-- A graph to which an edge was added has it besides those it had before. -/
theorem contains_insert {added : Bool} (h : g.insert a b = .ok (added, g')) {x y : FileId} :
  g'.contains x y ↔ g.contains x y ∨ x = a ∧ y = b
  := by
  obtain ⟨hab, ⟨hE, rfl⟩ | rfl⟩ := insert_cases h
  · constructor
    · apply Or.inl
    · rintro (h | ⟨rfl, rfl⟩)
      · apply h
      · apply contains_iff.mpr ⟨hab, hE⟩
  · rw [contains_iff, contains_iff, edge_insert]
    constructor
    · rintro ⟨hxy, h⟩
      apply h.imp_left (And.intro hxy)
    · rintro (⟨hxy, h⟩ | ⟨rfl, rfl⟩)
      · use hxy
        left
        apply h
      · use hab
        right
        use rfl

/-- A graph to which an edge was added records it besides what it recorded before. -/
theorem Records.insert (hg : g.Records D) {added : Bool} (h : g.insert a b = .ok (added, g')) :
  g'.Records fun x y => D x y ∨ x = a ∧ y = b
  := by
  have mono {x y : FileId} (hxy : DependsOn D x y) :
      DependsOn (fun x y => D x y ∨ x = a ∧ y = b) x y :=
    hxy.mono fun _ _ => Or.inl
  obtain ⟨⟨ha, hb⟩, ⟨hE, rfl⟩ | rfl⟩ := insert_cases h
  · exact {
      bound_le := hg.bound_le
      within := hg.within
      direct := by
        rintro x y (h | ⟨rfl, rfl⟩)
        · apply hg.direct x y h
        · apply hE
      derived := fun x y h => mono (hg.derived x y h)
      closed := by
        -- The edge was derived before, so it adds no dependencies.
        intro hopen x y h
        apply hg.closed hopen
        apply (dependsOn_congr (fun _ _ => Or.inl) _).mp h
        rintro x y (h | ⟨rfl, rfl⟩)
        · apply DependsOn.of_step h
        · apply hg.derived _ _ hE }
  · obtain ⟨hle, hg', ha', hb'⟩ := cover_le hg.bound_le ha hb
    exact {
      bound_le := hle
      within := by
        rw [← EdgeSet.keyAt_place ha hb]
        apply (hg.within.mono hg').insert ha' hb'
      direct := by
        intro x y h
        apply edge_insert.mpr
        apply h.imp_left (hg.direct x y)
      derived := by
        intro x y h
        rcases edge_insert.mp h with h | h
        · apply mono (hg.derived x y h)
        · apply DependsOn.of_step
          right
          apply h
      closed := fun h => by cases h }

end DependencyGraph

end Recompile
