/-!
# Reading text

A reader takes what it needs from the front of a text and leaves the rest, or refuses. The
readers of every format are built from the few here.
-/

namespace Recompile

/-- Takes something from the front of a text. -/
abbrev Reader := StateT (List Char) Option

namespace Reader

variable {α β : Type}

/-- Reads a whole text and leaves nothing. -/
def whole (r : Reader α) (text : List Char) : Option α :=
  match r text with
  | some (a, []) => some a
  | _ => none

/-- The next character, which stays. -/
def peek : Reader (Option Char) := fun cs => some (cs.head?, cs)

/-- One character that passes a test. -/
def one (p : Char → Bool) : Reader Char
  | [] => none
  | c :: cs => if p c then some (c, cs) else none

/-- The given character. -/
def char (c : Char) : Reader Unit := (fun _ => ()) <$> one (· = c)

/-- The given characters. -/
def word : List Char → Reader Unit
  | [] => pure ()
  | c :: cs => do char c; word cs

/-- As many characters as pass a test. -/
def takeWhile (p : Char → Bool) : Reader (List Char) :=
  fun cs => some (cs.takeWhile p, cs.dropWhile p)

/-- One or more characters that pass a test. -/
def takeWhile1 (p : Char → Bool) : Reader (List Char) := do
  let c ← one p
  return c :: (← takeWhile p)

/-- The given number of characters that pass a test. -/
def exactly (n : Nat) (p : Char → Bool) : Reader (List Char) :=
  fun cs =>
    let front := cs.take n
    if front.length = n && front.all p then some (front, cs.drop n) else none

/-- What `r` reads, or nothing, with nothing taken. -/
def maybe (r : Reader α) : Reader (Option α) :=
  fun cs =>
    match r cs with
    | some (a, rest) => some (some a, rest)
    | none => some (none, cs)

/-- Nothing is left. -/
def atEnd : Reader Unit
  | [] => some ((), [])
  | _ :: _ => none

/-- Runs `r` as long as it succeeds, at most once for each character of `bound`. -/
def manyWithin (r : Reader α) : (bound : List Char) → Reader (List α)
  | [] => pure []
  | _ :: bound => fun cs =>
    match r cs with
    | none => some ([], cs)
    | some (a, rest) => (manyWithin r bound rest).map fun (as, left) => (a :: as, left)

/-- Runs `r` as long as it succeeds. Whatever takes something each time has enough turns. -/
def many (r : Reader α) : Reader (List α) := fun cs => manyWithin r cs cs

/-- Items with separators between them, none at the end, possibly no items. -/
def separated (item : Reader α) (separator : Reader β) : Reader (List α) := do
  match ← maybe item with
  | none => return []
  | some a => return a :: (← many (do let _ ← separator; item))

end Reader

/-! ### Digits -/

/-- The value of a digit, letters counting on from ten. -/
def digitValue (c : Char) : Nat :=
  if c.isDigit then c.toNat - '0'.toNat
  else if 'a' ≤ c then c.toNat - 'a'.toNat + 10
  else c.toNat - 'A'.toNat + 10

/-- The number that digits spell in a base. -/
def numberOf (base : Nat) (digits : List Char) : Nat :=
  digits.foldl (fun n c => n * base + digitValue c) 0

/-- A digit of base sixteen. -/
def isHexDigit (c : Char) : Bool :=
  c.isDigit || ('a' ≤ c && c ≤ 'f') || ('A' ≤ c && c ≤ 'F')

end Recompile
