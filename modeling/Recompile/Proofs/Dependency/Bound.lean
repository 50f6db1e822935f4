import Recompile.Proofs.Dependency.History

/-!
# The bound of a graph

The bound of a dependency graph covers the files in its edges (`Covered`), and no smaller bound
would (`Tight`). It is raised by a new edge only: closing adds edges between files that have edges
already. So every place that is looked at while the graph is closed has a number, and closing with
each place checked (`closedChecked`) never fails.
-/

namespace Recompile

/-! ### Checked places -/

/-- The file at place `i` of a dense table, if there is a number for it. -/
def FileId.ofIndex? (i : Nat) : Option FileId :=
  if i ≤ FileId.max.val.toNatClampNeg then some (ofIndex i) else none

namespace EdgeSet

/-- The key of the edge between the files at two places, if there are numbers for both and the
edge can be encoded. -/
def keyAt? (i j : Nat) : Option EdgeKey := do
  let a ← FileId.ofIndex? i
  let b ← FileId.ofIndex? j
  (EdgeKey.encode a b).toOption

/-- The pivot `k` seen from `i`, as far as the file `j` goes. Each place is checked. -/
def closeEntryChecked (k i j : Nat) (edges : EdgeSet) : Option EdgeSet := do
  if i = j then return edges
  if !edges.contains (← keyAt? k j) then return edges
  if edges.contains (← keyAt? i j) then return edges
  return edges.insert (← keyAt? i j)

/-- The pivot `k` seen from `i`. Each place is checked. -/
def closeRowChecked (n k i : Nat) (edges : EdgeSet) : Option EdgeSet :=
  (List.range n).foldlM (fun edges j => closeEntryChecked k i j edges) edges

/-- The pivot `k` seen from every file that depends on it. Each place is checked. -/
def closePivotChecked (n k : Nat) (edges : EdgeSet) : Option EdgeSet :=
  (List.range n).foldlM
    (fun edges i => do
      if i = k then return edges
      if !edges.contains (← keyAt? i k) then return edges
      closeRowChecked n k i edges)
    edges

/-- The closure of a set of edges between files below `n`. Each place is checked. -/
def closureChecked (n : Nat) (edges : EdgeSet) : Option EdgeSet :=
  (List.range n).foldlM (fun edges k => closePivotChecked n k edges) edges

variable {n k i j : Nat} {E : EdgeSet}

/-- Two places below 2^31 have numbers, so a key can be made for them. -/
theorem keyAt?_eq (hi : i < 2 ^ 31) (hj : j < 2 ^ 31) :
  keyAt? i j = some (keyAt i j)
  := by
  have hmax : FileId.max.val.toNatClampNeg = 2 ^ 31 - 1 := rfl
  have ofIndex?_eq {i : Nat} (hi : i < 2 ^ 31) : FileId.ofIndex? i = some (FileId.ofIndex i) := by
    apply if_pos
    omega
  rw [keyAt?, ofIndex?_eq hi, ofIndex?_eq hj]
  simp only [Option.bind_eq_bind, Option.bind_some]
  rw [EdgeKey.encode_of_isKnown (FileId.isKnown_ofIndex hi) (FileId.isKnown_ofIndex hj)]
  rfl

/-- A series of steps none of which fails. -/
theorem foldlM_eq_some {α β : Type} {f? : β → α → Option β} {f : β → α → β} {l : List α}
    (h : ∀ x ∈ l, ∀ b, f? b x = some (f b x)) (b : β) :
  l.foldlM f? b = some (l.foldl f b)
  := by
  induction l generalizing b with
  | nil => rfl
  | cons x l ih =>
      rw [List.foldlM_cons, h x List.mem_cons_self, List.foldl_cons, ← ih]
      · rfl
      · intro y hy
        apply h y (List.mem_cons_of_mem x hy)

/-- With such places no check of a single entry fails. -/
theorem closeEntryChecked_eq (hk : k < 2 ^ 31) (hi : i < 2 ^ 31) (hj : j < 2 ^ 31) :
  closeEntryChecked k i j E = some (closeEntry k i j E)
  := by
  rw [closeEntryChecked, closeEntry, keyAt?_eq hk hj, keyAt?_eq hi hj, joins, joins]
  simp only [Option.bind_eq_bind, Option.bind_some]
  generalize E.contains (keyAt k j) = hasPivot
  generalize E.contains (keyAt i j) = hasEdge
  by_cases hij : i = j
  · simp [hij]
  · cases hasPivot <;> cases hasEdge <;> simp [hij]

theorem closeRowChecked_eq (hn : n ≤ 2 ^ 31) (hk : k < n) (hi : i < n) :
  closeRowChecked n k i E = some (closeRow n k i E)
  := by
  apply foldlM_eq_some
  intro j hj E
  have hj' := List.mem_range.mp hj
  apply closeEntryChecked_eq
  all_goals omega

/-- Nor does one of a whole round. -/
theorem closePivotChecked_eq (hn : n ≤ 2 ^ 31) (hk : k < n) :
  closePivotChecked n k E = some (closePivot n k E)
  := by
  apply foldlM_eq_some
  intro i hi E
  have hi' := List.mem_range.mp hi
  rw [keyAt?_eq (by omega) (by omega), closeRowChecked_eq hn hk hi']
  by_cases hik : i = k
  · simp [hik]
  · by_cases h : E.contains (keyAt i k) <;> simp [joins, hik, h]

/-- If all places below `n` have numbers, no check fails. -/
theorem closureChecked_eq (hn : n ≤ 2 ^ 31) :
  closureChecked n E = some (closure n E)
  := by
  apply foldlM_eq_some
  intro k hk E
  apply closePivotChecked_eq hn (List.mem_range.mp hk)

end EdgeSet

open EdgeSet (Edge)

namespace DependencyGraph

variable {g g' : DependencyGraph} {D : FileId → FileId → Prop} {a b : FileId}

/-- The graph with its edges closed. Each place is checked. -/
def closedChecked (g : DependencyGraph) : Option DependencyGraph :=
  if g.isOpen then (g.keys.closureChecked g.bound).map fun keys => { g with keys, isOpen := false }
  else some g

/-! ### The invariant -/

/-- All edges are between files below the bound, which have numbers. -/
structure Covered (g : DependencyGraph) : Prop where
  bound_le : g.bound ≤ 2 ^ 31
  ends : ∀ key ∈ g.keys,
    (key.dependent.isKnown ∧ key.dependent.place < g.bound)
      ∧ key.dependency.isKnown ∧ key.dependency.place < g.bound

/-- The last place below the bound is that of a file with an edge. -/
def Tight (g : DependencyGraph) : Prop :=
  ∀ i, g.bound = i + 1 → ∃ a b, Edge g.keys a b ∧ (a.place = i ∨ b.place = i)

/-- The bound of a graph that records dependencies covers its edges. -/
theorem Records.covered (hg : g.Records D) :
  g.Covered
  where
  bound_le := hg.bound_le
  ends key hkey := by
    apply hg.within.edge hg.bound_le
    rw [Edge, EdgeKey.pack_decode]
    apply hkey

/-- Closing a graph that its bound covers fails no check. -/
theorem Covered.closedChecked_eq (hg : g.Covered) :
  g.closedChecked = some g.closed
  := by
  rw [closedChecked, closed]
  split_ifs
  · rw [EdgeSet.closureChecked_eq hg.bound_le]
    rfl
  · rfl

theorem tight_empty :
  empty.Tight
  := by
  intro i hi
  cases hi

/-- Closing neither drops an edge nor moves the bound. -/
theorem Tight.close (h : g.Tight) (hg : g.Records D) :
  g.closed.Tight
  := by
  have hbound : g.closed.bound = g.bound := by
    rw [closed]
    split_ifs <;> rfl
  intro i hi
  rw [hbound] at hi
  obtain ⟨a, b, hab, hi⟩ := h i hi
  use a, b
  constructor
  · rw [hg.edge_closed_iff]
    apply hg.derived a b hab
  · apply hi

/-- A new edge raises the bound as far as its own ends, or not at all. -/
theorem Tight.insert (h : g.Tight) {added : Bool} (hinsert : g.insert a b = .ok (added, g')) :
  g'.Tight
  := by
  obtain ⟨⟨ha, hb⟩, ⟨-, rfl⟩ | rfl⟩ := insert_cases hinsert
  · apply h
  · intro i hi
    simp only [cover_eq _ ha, cover_eq _ hb] at hi
    have hlast : g.bound = i + 1 ∨ a.place = i ∨ b.place = i := by omega
    rcases hlast with hold | hnew
    · obtain ⟨x, y, hxy, hi⟩ := h i hold
      use x, y, edge_insert.mpr (.inl hxy)
    · use a, b, edge_insert.mpr (.inr ⟨rfl, rfl⟩)

/-- Adding edges one after another keeps the bound tight, also when one of them is refused. -/
theorem Tight.insertAll (h : g.Tight) (es : List (FileId × FileId)) :
  (g.insertAll es).1.Tight
  := by
  induction es generalizing g with
  | nil => apply h
  | cons e es ih =>
      obtain ⟨a, b⟩ := e
      rw [DependencyGraph.insertAll]
      split
      · apply h
      · next hinsert => apply ih (h.insert hinsert)

/-- No step leaves the bound further up than the edges go. -/
theorem Tight.step (h : g.Tight) (hg : g.Records D) (s : Step) :
  (g.step s).1.Tight
  := by
  cases s with
  | insert a b =>
      rw [DependencyGraph.step]
      split
      · next hinsert => apply h.insert hinsert
      · apply h
  | insertAll es =>
      have h' := h.insertAll es
      rw [DependencyGraph.step]
      split
      all_goals
        next heq =>
          rw [heq] at h'
          apply h'
  | close => apply h.close hg
  | dependentsOf => apply h.close hg
  | dependenciesOf => apply h.close hg
  | clear => apply tight_empty
  | contains => apply h
  | isClosed => apply h
  | edges => apply h
  | size => apply h
  | isEmpty => apply h
  | relation => apply h

/-- Whatever history a graph has, its bound is tight. -/
theorem tight_run (steps : List Step) :
  (run steps).1.Tight
  := by
  have h : (run steps).1.TellsOf (inserted steps) ∧ (run steps).1.Tight := by
    apply runSteps_foldl (P := fun g pairs => TellsOf g pairs ∧ g.Tight)
    · rintro g pairs s ⟨hg, h⟩
      use hg.step s, h.step hg s
    · use records_empty.congr (by simp), tight_empty
  apply h.2

/-- Whatever history a graph has, its bound covers its edges. -/
theorem covered_run (steps : List Step) :
  (run steps).1.Covered
  := Records.covered (tellsOf_run steps)

/-- The files in an edge have numbers below the bound. -/
theorem Covered.below (hg : g.Covered) {e : FileId × FileId} (he : e ∈ g.edges) :
  e.1.place < g.bound ∧ e.2.place < g.bound
  := by
  obtain ⟨a, b⟩ := e
  have h := hg.ends _ (mem_edges.mp he)
  simp only [EdgeKey.dependent_pack, EdgeKey.dependency_pack] at h
  use h.1.2, h.2.2

/-- A bound that is not zero is one more than the number of a file with an edge. -/
theorem Tight.exists_top (h : g.Tight) (hne : g.bound ≠ 0) :
  ∃ top : FileId, g.bound = top.place + 1 ∧ ∃ e ∈ g.edges, e.1 = top ∨ e.2 = top
  := by
  obtain ⟨i, hi⟩ := Nat.exists_eq_succ_of_ne_zero hne
  obtain ⟨a, b, hab, ha | hb⟩ := h i hi
  · use a, by rw [ha, hi], (a, b), mem_edges.mpr hab
    left
    rfl
  · use b, by rw [hb, hi], (a, b), mem_edges.mpr hab
    right
    rfl

/-- The bound is zero exactly if there are no edges. -/
theorem bound_eq_zero_iff (hg : g.Covered) (h : g.Tight) :
  g.bound = 0 ↔ g.edges = []
  := by
  constructor
  · intro hzero
    rw [List.eq_nil_iff_forall_not_mem]
    intro e he
    have hbelow := (hg.below he).1
    omega
  · intro hnil
    by_contra hne
    obtain ⟨-, -, e, he, -⟩ := h.exists_top hne
    rw [hnil] at he
    cases he

/-- Whatever history a graph has, its bound is one more than the largest number in its edges, and
zero if it has none. The keys stand for pairs of known files below the bound. There are numbers for
all places below the bound, so closing the graph fails no check of a place. -/
theorem run_bound_exact (steps : List Step) :
  let g := (run steps).1
  (g.bound = 0 ↔ g.edges = [])
    ∧ (g.edges ≠ [] → ∃ top : FileId, g.bound = top.place + 1
        ∧ (∃ e ∈ g.edges, e.1 = top ∨ e.2 = top)
        ∧ ∀ e ∈ g.edges, e.1.place ≤ top.place ∧ e.2.place ≤ top.place)
    ∧ (∀ key ∈ g.keys, (key.decode.1.isKnown ∧ key.decode.1.place < g.bound)
        ∧ key.decode.2.isKnown ∧ key.decode.2.place < g.bound)
    ∧ g.bound ≤ 2 ^ 31
    ∧ g.closedChecked = some g.closed
  := by
  intro g
  have hg : g.Covered := covered_run steps
  have htight : g.Tight := tight_run steps
  have hzero := bound_eq_zero_iff hg htight
  use hzero
  constructor
  · intro hne
    obtain ⟨top, hbound, htop⟩ := htight.exists_top (hzero.not.mpr hne)
    use top, hbound, htop
    intro e he
    have hbelow := hg.below he
    omega
  · use hg.ends, hg.bound_le, hg.closedChecked_eq

/-- The largest number there is has its place below the bound. -/
example : (run [.insert FileId.max ⟨0⟩, .close]).1.bound = 2 ^ 31 := by
  decide

end DependencyGraph

end Recompile
