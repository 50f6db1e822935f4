import Recompile.Report.Text
import Recompile.Text.Quoted

/-!
# Drawings of the dependency graph

The closed graph as Graphviz text: one node for each file that takes part in a dependency,
labelled with its quoted path, and one edge for each dependency.
-/

namespace Recompile

/-- A drawing. Nodes are numbered in the order of their labels. -/
structure Drawing where
  labels : List String
  /-- The numbers of the nodes an edge leads from and to. -/
  edges : List (Nat × Nat)
deriving DecidableEq, Repr

namespace Drawing

/-- What is written in the brackets of a node, with the brackets. -/
def nodeAttributes (label : String) : String :=
  "[ label = \"" ++ Quoted.nest (Quoted.quote label) ++ "\" ]"

/-- What is written in the brackets of an edge, with the brackets. -/
def edgeAttributes : String := "[ ]"

/-- The line a drawing starts with. -/
def opening : String := "digraph \x7b"

/-- The line a drawing ends with. -/
def closing : String := "\x7d"

/-- The lines of a drawing. -/
def lines (d : Drawing) : List String :=
  [opening]
    ++ d.labels.zipIdx.map (fun (label, i) => s!"    {i} " ++ nodeAttributes label)
    ++ d.edges.map (fun (i, j) => s!"    {i} -> {j} " ++ edgeAttributes)
    ++ [closing]

/-- The text of a drawing. -/
def text (d : Drawing) : String := unlines d.lines

end Drawing

/-- Draws the closed graph of a session. This closes the graph. -/
def Session.draw (s : Session) (root : Path) : Drawing × Session :=
  let s := s.close
  let r := s.graph.relation
  let edges := r.edges.map fun (a, b) => (r.nodes.idxOf a, r.nodes.idxOf b)
  (⟨r.nodes.map (s.displayPath root), edges⟩, s)

end Recompile
