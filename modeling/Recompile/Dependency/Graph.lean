import Recompile.Dependency.Closure
import Recompile.Machine

/-!
# The dependency graph

The edges that were inserted, closed only when a question needs it. A flag tells whether edges
were added since the last time, and a bound tells which files can have edges.
-/

namespace Recompile

/-- A set of "depends on" edges between files. -/
structure DependencyGraph where
  keys : EdgeSet := ∅
  /-- Edges were added since the set was last closed. -/
  isOpen : Bool := false
  /-- One more than the largest number in an edge. -/
  bound : Nat := 0

/-- The edges of a graph together with the files that take part in them. -/
structure Relation where
  nodes : List FileId
  edges : List (FileId × FileId)
deriving DecidableEq, Repr

namespace DependencyGraph

/-- The graph without edges. -/
def empty : DependencyGraph := {}

/-- The least bound that also covers `id`. -/
def cover (bound : Nat) (id : FileId) : Nat :=
  match id.index with
  | some i => Nat.max bound (i + 1)
  | none => bound

/-- Adds an edge and tells whether it is new. -/
def insert (g : DependencyGraph) (dependent dependency : FileId) :
    Except Fault (Bool × DependencyGraph) :=
  match EdgeKey.encode dependent dependency with
  | .error cause => .error cause
  | .ok key =>
    if g.keys.contains key then .ok (false, g)
    else
      .ok (true, {
        keys := g.keys.insert key
        isOpen := true
        bound := cover (cover g.bound dependent) dependency })

/-- Whether an edge is in the set as it stands. -/
def contains (g : DependencyGraph) (dependent dependency : FileId) : Bool :=
  match EdgeKey.encode dependent dependency with
  | .error _ => false
  | .ok key => g.keys.contains key

/-- Whether the set is its own closure. -/
def isClosed (g : DependencyGraph) : Bool := !g.isOpen

/-- The graph with its edges closed. -/
def closed (g : DependencyGraph) : DependencyGraph :=
  if g.isOpen then { g with keys := g.keys.closure g.bound, isOpen := false } else g

/-- The edges in the order of their keys. -/
def edges (g : DependencyGraph) : List (FileId × FileId) := g.keys.toList.map EdgeKey.decode

/-- The files with an edge to `id` in the set as it stands. -/
def sources (g : DependencyGraph) (id : FileId) : List FileId :=
  (g.edges.filter fun e => e.2 = id).map Prod.fst

/-- The files with an edge from `id` in the set as it stands. -/
def targets (g : DependencyGraph) (id : FileId) : List FileId :=
  (g.edges.filter fun e => e.1 = id).map Prod.snd

/-- How many edges the set has as it stands. -/
def size (g : DependencyGraph) : Nat := g.keys.size

/-- Whether there are no edges. -/
def isEmpty (g : DependencyGraph) : Bool := g.keys.isEmpty

/-- The files that take part in an edge, in order. -/
def nodes (g : DependencyGraph) : List FileId :=
  (g.edges.foldl (fun files e => (files.insert e.1).insert e.2)
    (∅ : Std.TreeSet FileId)).toList

/-- The set as it stands, with the files that take part in it. -/
def relation (g : DependencyGraph) : Relation := ⟨g.nodes, g.edges⟩

/-- Every file that depends on `id`, directly or not, in order. This closes the graph. -/
def dependentsOf (g : DependencyGraph) (id : FileId) : List FileId × DependencyGraph :=
  (g.closed.sources id, g.closed)

/-- Every file `id` depends on, directly or not, in order. This closes the graph. -/
def dependenciesOf (g : DependencyGraph) (id : FileId) : List FileId × DependencyGraph :=
  (g.closed.targets id, g.closed)

/-- Adds edges one by one, up to the first that is refused. -/
def insertAll (g : DependencyGraph) :
    List (FileId × FileId) → DependencyGraph × Except Fault (List Bool)
  | [] => (g, .ok [])
  | (a, b) :: es =>
    match g.insert a b with
    | .error cause => (g, .error cause)
    | .ok (added, g') =>
      let (g'', rest) := g'.insertAll es
      (g'', rest.map (added :: ·))

/-! ### Histories -/

/-- What can be asked of a dependency graph. -/
inductive Step where
  | insert (dependent dependency : FileId)
  | insertAll (edges : List (FileId × FileId))
  | contains (dependent dependency : FileId)
  | isClosed
  | close
  | dependentsOf (id : FileId)
  | dependenciesOf (id : FileId)
  | edges
  | size
  | isEmpty
  | relation
  | clear

/-- What a dependency graph answers. -/
inductive Answer where
  | done
  | fault (cause : Fault)
  | flag (b : Bool)
  | flags (bs : List Bool)
  | files (ids : List FileId)
  | edges (pairs : List (FileId × FileId))
  | count (n : Nat)
  | relation (r : Relation)

/-- One step of a dependency graph. -/
def step (g : DependencyGraph) : Step → DependencyGraph × Answer
  | .insert a b =>
    match g.insert a b with
    | .ok (added, g') => (g', .flag added)
    | .error cause => (g, .fault cause)
  | .insertAll es =>
    match g.insertAll es with
    | (g', .ok added) => (g', .flags added)
    | (g', .error cause) => (g', .fault cause)
  | .contains a b => (g, .flag (g.contains a b))
  | .isClosed => (g, .flag g.isClosed)
  | .close => (g.closed, .flag g.isOpen)
  | .dependentsOf id => let (ids, g') := g.dependentsOf id; (g', .files ids)
  | .dependenciesOf id => let (ids, g') := g.dependenciesOf id; (g', .files ids)
  | .edges => (g, .edges g.edges)
  | .size => (g, .count g.size)
  | .isEmpty => (g, .flag g.isEmpty)
  | .relation => (g, .relation g.relation)
  | .clear => (empty, .done)

/-- The steps of a history, from the graph without edges. -/
def run (steps : List Step) : DependencyGraph × List Answer := runSteps step empty steps

end DependencyGraph

end Recompile
