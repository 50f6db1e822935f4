/-!
# File identifiers

A source file is known by a dense 32-bit number. Negative numbers never name a file;
`FileId.unknown` is the one used for "no such file".
-/

namespace Recompile

/-- The number of one source file, a module or an include file. -/
structure FileId where
  val : Int32
deriving DecidableEq, Repr

namespace FileId

/-- The number that stands for "no such file". -/
def unknown : FileId := ⟨-1⟩

/-- The largest number a file can have. -/
def max : FileId := ⟨Int32.maxValue⟩

instance : Inhabited FileId := ⟨unknown⟩

instance : Ord FileId := ⟨fun a b => compare a.val b.val⟩

instance : Std.TransOrd FileId :=
  inferInstanceAs (Std.TransCmp (compareOn FileId.val))

instance : Std.LawfulEqOrd FileId where
  eq_of_compare {a b} h := by
    obtain ⟨a⟩ := a
    obtain ⟨b⟩ := b
    have h' : compare a b = .eq := h
    rw [Std.LawfulEqOrd.eq_of_compare h']

/-- A file with a non-negative number is known. -/
def isKnown (id : FileId) : Bool := 0 ≤ id.val

/-- The place of a known file in a dense table. -/
def index (id : FileId) : Option Nat :=
  if id.isKnown then some id.val.toNatClampNeg else none

/-- The file at place `i` of a dense table. -/
def ofIndex (i : Nat) : FileId := ⟨Int32.ofNat i⟩

/-- Known files are written with their number, all others alike. -/
def text (id : FileId) : String :=
  if id.isKnown then "#" ++ toString id.val else "#unknown"

instance : ToString FileId := ⟨text⟩

/-- The number with the name of its type, for diagnostics. -/
def debugText (id : FileId) : String := "FileId(" ++ toString id.val ++ ")"

end FileId

end Recompile
