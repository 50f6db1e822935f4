/-!
# Paths

A path keeps the spelling it was written with. Where it leads is told by its components:
two paths are the same place when their components agree, however many slashes or `.`
steps their spellings have.
-/

namespace Recompile

/-- One step of a path. -/
inductive Component where
  /-- The slash a path from the root starts with. -/
  | root
  /-- A leading `.`. -/
  | here
  /-- A `..`. -/
  | up
  | name (text : String)
deriving DecidableEq, Repr

/-- A place in a file tree, as it was written. -/
structure Path where
  text : String
deriving DecidableEq, Repr, Inhabited

namespace Path

instance : ToString Path := ⟨Path.text⟩

/-! ### Spelling and segments -/

/-- The pieces of a spelling between its slashes, empty pieces included. -/
def splitSlashes : List Char → List (List Char)
  | [] => [[]]
  | c :: cs =>
    if c = '/' then [] :: splitSlashes cs
    else
      match splitSlashes cs with
      | [] => [[c]]
      | s :: ss => (c :: s) :: ss

/-- The spelling whose pieces are the given ones. -/
def joinSlashes : List (List Char) → List Char
  | [] => []
  | [s] => s
  | s :: t :: ss => s ++ '/' :: joinSlashes (t :: ss)

theorem splitSlashes_ne_nil (cs : List Char) :
  splitSlashes cs ≠ []
  := by
  cases cs with
  | nil => simp [splitSlashes]
  | cons c cs =>
    rw [splitSlashes]
    split
    · simp
    · split <;> simp

theorem joinSlashes_splitSlashes (cs : List Char) :
  joinSlashes (splitSlashes cs) = cs
  := by
  induction cs with
  | nil => rfl
  | cons c cs ih =>
    rw [splitSlashes]
    cases h : splitSlashes cs with
    | nil => exact absurd h (splitSlashes_ne_nil cs)
    | cons s ss =>
      rw [h] at ih
      split
      · next hc => simp [joinSlashes, ih, hc]
      · cases ss with
        | nil => simpa [joinSlashes] using ih
        | cons t ts => simpa [joinSlashes] using ih

/-- The pieces of the spelling of a path. -/
def segments (p : Path) : List (List Char) := splitSlashes p.text.toList

/-- The path with the given pieces. -/
def ofSegments (ss : List (List Char)) : Path := ⟨String.ofList (joinSlashes ss)⟩

/-! ### Components -/

/-- The step a piece stands for; empty pieces and `.` stand for none. -/
def step? : List Char → Option Component
  | [] => none
  | ['.'] => none
  | ['.', '.'] => some .up
  | s => some (.name (String.ofList s))

/-- What a path starts with, besides ordinary steps, and the pieces that follow it. -/
def start : List (List Char) → Option Component × List (List Char)
  | [] :: s :: ss => (some .root, s :: ss)
  | ['.'] :: ss => (some .here, ss)
  | ss => (none, ss)

/-- The steps of a path. A `.` counts only in front, and only in a relative path. -/
def components (p : Path) : List Component :=
  let (first, rest) := start p.segments
  first.toList ++ rest.filterMap step?

/-- Two paths lead to the same place. -/
def Same (p q : Path) : Prop := p.components = q.components

instance (p q : Path) : Decidable (p.Same q) :=
  inferInstanceAs (Decidable (p.components = q.components))

theorem Same.refl (p : Path) :
  p.Same p
  := rfl

theorem Same.symm {p q : Path} (h : p.Same q) :
  q.Same p
  := Eq.symm h

theorem Same.trans {p q r : Path} (h : p.Same q) (h' : q.Same r) :
  p.Same r
  := Eq.trans h h'

/-! ### Joining -/

/-- A path that starts at the root. -/
def isAbsolute (p : Path) : Bool := p.text.toList.head? = some '/'

/-- The path `p`, read from the directory `base`. An absolute path stays as it is. -/
def join (base p : Path) : Path :=
  if p.isAbsolute then p
  else if base.text.toList.getLast?.all (· = '/') then ⟨base.text ++ p.text⟩
  else ⟨base.text ++ "/" ++ p.text⟩

end Path

end Recompile
