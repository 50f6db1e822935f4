import Recompile.Proofs.Dependency.Records

/-!
# Histories of dependency graphs

However closing, questions and insertions follow each other, a graph tells of the pairs that
were inserted since it was last cleared, and of no others: its edges lie between these pairs and
their dependencies, and what it answers are the dependencies.
-/

namespace Recompile

open FileId (Ascending)

namespace DependencyGraph

/-- The pairs inserted since the last clearing, once a step has been taken. A pair with a file
that is not known is refused, and ends a series of insertions. -/
def noteStep (pairs : List (FileId × FileId)) : Step → List (FileId × FileId)
  | .insert a b => if a.isKnown ∧ b.isKnown then pairs ++ [(a, b)] else pairs
  | .insertAll es => pairs ++ es.takeWhile fun e => e.1.isKnown ∧ e.2.isKnown
  | .clear => []
  | _ => pairs

/-- The pairs that were inserted in a history since the last clearing. -/
def inserted (steps : List Step) : List (FileId × FileId) := steps.foldl noteStep []

/-- A graph tells of the pairs of a list. -/
def TellsOf (g : DependencyGraph) (pairs : List (FileId × FileId)) : Prop :=
  g.Records fun a b => (a, b) ∈ pairs

/-- An edge that is taken is one more pair that the graph tells of. -/
theorem TellsOf.insert {g g' : DependencyGraph} {pairs : List (FileId × FileId)}
    (hg : g.TellsOf pairs) {a b : FileId} {added : Bool}
    (h : g.insert a b = .ok (added, g')) :
  g'.TellsOf (pairs ++ [(a, b)])
  := by
  apply (Records.insert hg h).congr
  simp

/-- Of a list of edges, those before the first that is refused are taken. -/
theorem TellsOf.insertAll {g : DependencyGraph} {pairs : List (FileId × FileId)}
    (hg : g.TellsOf pairs) (es : List (FileId × FileId)) :
  (g.insertAll es).1.TellsOf (pairs ++ es.takeWhile fun e => e.1.isKnown ∧ e.2.isKnown)
  := by
  induction es generalizing g pairs with
  | nil =>
      rw [List.takeWhile_nil, List.append_nil]
      apply hg
  | cons e es ih =>
      obtain ⟨a, b⟩ := e
      by_cases hab : a.isKnown ∧ b.isKnown
      · obtain ⟨added, g', h⟩ := insert_eq_ok (g := g) hab.1 hab.2
        have h' := ih (hg.insert h)
        rw [List.append_assoc] at h'
        simpa [DependencyGraph.insertAll, h, List.takeWhile_cons, hab] using h'
      · simpa [DependencyGraph.insertAll, insert_eq_error hab, List.takeWhile_cons, hab] using hg

/-- Every step leaves a graph that tells of the pairs inserted so far. -/
theorem TellsOf.step {g : DependencyGraph} {pairs : List (FileId × FileId)}
    (hg : g.TellsOf pairs) (s : Step) :
  (g.step s).1.TellsOf (noteStep pairs s)
  := by
  cases s with
  | insert a b =>
      by_cases hab : a.isKnown ∧ b.isKnown
      · obtain ⟨added, g', h⟩ := insert_eq_ok (g := g) hab.1 hab.2
        rw [DependencyGraph.step, h, noteStep, if_pos hab]
        apply hg.insert h
      · rw [DependencyGraph.step, insert_eq_error hab, noteStep, if_neg hab]
        apply hg
  | insertAll es =>
      have h := hg.insertAll es
      rw [DependencyGraph.step]
      split
      · next heq =>
          rw [heq] at h
          apply h
      · next heq =>
          rw [heq] at h
          apply h
  | close => apply Records.close hg
  | dependentsOf => apply Records.close hg
  | dependenciesOf => apply Records.close hg
  | clear => apply records_empty.congr (by simp [noteStep])
  | contains => apply hg
  | isClosed => apply hg
  | edges => apply hg
  | size => apply hg
  | isEmpty => apply hg
  | relation => apply hg

theorem tellsOf_run (steps : List Step) :
  (run steps).1.TellsOf (inserted steps)
  := by
  apply runSteps_foldl (P := TellsOf) (fun _ _ s hg => hg.step s)
  apply records_empty.congr
  simp

/-- In every reachable state the edges lie between the pairs inserted since the last clearing
and their dependencies, and are the dependencies once the graph is closed. Questions are
answered in order by the dependencies, closed or not. A pair with a file that is not known is
refused and changes nothing; every other pair is accepted. -/
theorem run_tells_dependencies (steps : List Step) :
  let g := (run steps).1
  let D := fun a b => (a, b) ∈ inserted steps
  (∀ a b, D a b → (a, b) ∈ g.edges)
    ∧ (∀ a b, (a, b) ∈ g.edges → DependsOn D a b)
    ∧ (g.isClosed → ∀ a b, (a, b) ∈ g.edges ↔ DependsOn D a b)
    ∧ (∀ x, ∃ ids, (g.step (.dependentsOf x)).2 = .files ids ∧ Ascending ids
        ∧ ∀ a, a ∈ ids ↔ DependsOn D a x)
    ∧ (∀ x, ∃ ids, (g.step (.dependenciesOf x)).2 = .files ids ∧ Ascending ids
        ∧ ∀ b, b ∈ ids ↔ DependsOn D x b)
    ∧ (∀ a b, ¬ (a.isKnown ∧ b.isKnown) →
        g.step (.insert a b) = (g, .fault (.unencodableEdge a b)))
    ∧ (∀ a b, a.isKnown → b.isKnown → ∃ added, (g.step (.insert a b)).2 = .flag added)
  := by
  intro g D
  have hg : g.Records D := tellsOf_run steps
  constructor
  · intro a b h
    rw [mem_edges]
    apply hg.direct a b h
  constructor
  · intro a b h
    rw [mem_edges] at h
    apply hg.derived a b h
  constructor
  · intro hclosed a b
    rw [mem_edges]
    apply hg.edge_iff
    simpa [isClosed] using hclosed
  constructor
  · intro x
    use g.closed.sources x, rfl, hg.close.sources_ascending x
    intro a
    rw [mem_sources]
    apply hg.edge_closed_iff
  constructor
  · intro x
    use g.closed.targets x, rfl, hg.close.targets_ascending x
    intro b
    rw [mem_targets]
    apply hg.edge_closed_iff
  constructor
  · intro a b hab
    rw [step, insert_eq_error hab]
  · intro a b ha hb
    obtain ⟨added, g', h⟩ := insert_eq_ok (g := g) ha hb
    use added
    rw [step, h]

end DependencyGraph

end Recompile
