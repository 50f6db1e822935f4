import Recompile.Dependency.Key
import Std.Data.TreeSet.Basic

/-!
# Transitive closure

A set of edges is closed one pivot at a time: with pivot `k`, whatever depends on `k` comes to
depend on what `k` depends on. After the pivots below `k`, two different files are joined
exactly if a path leads from one to the other through files below `k`. No file is ever joined
to itself.
-/

namespace Recompile

/-- A set of edges, in the order of their keys. -/
abbrev EdgeSet := Std.TreeSet EdgeKey

namespace EdgeSet

/-- The key of the edge between the files at two places. -/
def keyAt (i j : Nat) : EdgeKey := EdgeKey.pack (FileId.ofIndex i) (FileId.ofIndex j)

/-- Whether the set joins the files at two places. -/
def joins (edges : EdgeSet) (i j : Nat) : Bool := edges.contains (keyAt i j)

/-- The pivot `k` seen from `i`: `i` comes to depend on what `k` depends on. -/
def closeRow (n k i : Nat) (edges : EdgeSet) : EdgeSet :=
  (List.range n).foldl
    (fun edges j =>
      if i ≠ j && edges.joins k j && !edges.joins i j then edges.insert (keyAt i j) else edges)
    edges

/-- The pivot `k` seen from every file that depends on it. -/
def closePivot (n k : Nat) (edges : EdgeSet) : EdgeSet :=
  (List.range n).foldl
    (fun edges i => if i = k || !edges.joins i k then edges else closeRow n k i edges)
    edges

/-- The edges after the first `k` pivots. -/
def closePivots (n : Nat) (edges : EdgeSet) (k : Nat) : EdgeSet :=
  (List.range k).foldl (fun edges k => closePivot n k edges) edges

/-- The closure of a set of edges between files below `n`. -/
def closure (n : Nat) (edges : EdgeSet) : EdgeSet := closePivots n edges n

end EdgeSet

end Recompile
