import Recompile.Path.Basic

/-!
# Parts of a path

The rest of a path below a directory, and the name of the file it ends in, without its
last extension.
-/

namespace Recompile

namespace Path

/-- The pieces without those at the end that stand for no step. -/
def trimEnd (ss : List (List Char)) : List (List Char) :=
  (ss.reverse.dropWhile fun s => (step? s).isNone).reverse

/-- The pieces without those at either end that stand for no step. -/
def trimSegments (ss : List (List Char)) : List (List Char) :=
  trimEnd (ss.dropWhile fun s => (step? s).isNone)

/-- The pieces left once the given steps have been taken. -/
def dropSteps : List Component → List (List Char) → Option (List (List Char))
  | [], ss => some ss
  | _ :: _, [] => none
  | c :: cs, s :: ss =>
    match step? s with
    | none => dropSteps (c :: cs) ss
    | some c' => if c' = c then dropSteps cs ss else none

/-- A path without the slashes and `.` steps at its end. What it starts with is kept. -/
def withoutTrailing (p : Path) : Path :=
  match start p.segments with
  | (some .root, rest) => ofSegments ([] :: if trimEnd rest = [] then [[]] else trimEnd rest)
  | (some .here, rest) => ofSegments (['.'] :: trimEnd rest)
  | (_, rest) => ofSegments (trimEnd rest)

/-- What is left of `p` below the directory `base`, or nothing if `p` does not lie there. The
steps between are spelled as they were in `p`. -/
def below (base p : Path) : Option Path :=
  match base.components with
  | [] => some p.withoutTrailing
  | c :: cs =>
    let (first, rest) := start p.segments
    let left := match first with
      | some d => if d = c then dropSteps cs rest else none
      | none => dropSteps (c :: cs) rest
    left.map fun ss => ofSegments (trimSegments ss)

/-- The name of the file a path ends in, if it ends in a name. -/
def fileName (p : Path) : Option String :=
  match p.components.getLast? with
  | some (.name s) => some s
  | _ => none

/-- A name up to its last dot. A name with no other dot than a leading one is kept whole. -/
def stemOf (name : String) : String :=
  let before := (name.toList.reverse.dropWhile (· ≠ '.')).drop 1
  if before = [] then name else String.ofList before.reverse

/-- The name of the file a path ends in, without its last extension. -/
def stem (p : Path) : Option String := p.fileName.map stemOf

end Path

end Recompile
