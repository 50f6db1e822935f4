import Recompile.Json.Basic
import Recompile.Text.Reading

/-!
# Reading JSON

A document is one value with blanks around it. The grammar is the strict one: no comments, no
commas at the end, no leading zeros, no control characters in texts.
-/

namespace Recompile

namespace Json

open Reader

/-- The blanks of JSON. -/
def isBlank (c : Char) : Bool := c = ' ' || c = '\n' || c = '\t' || c = '\r'

/-- Any number of blanks. -/
def blanks : Reader Unit := do let _ ← takeWhile isBlank

/-! ### Texts -/

/-- What a text is made of: characters, and the 16-bit units that escapes give by number. -/
inductive Piece where
  | char (c : Char)
  | unit (n : Nat)

/-- The character an escape letter stands for. -/
def escapeLetter : Char → Option Char
  | '"' => some '"'
  | '\\' => some '\\'
  | '/' => some '/'
  | 'b' => some '\x08'
  | 'f' => some '\x0c'
  | 'n' => some '\n'
  | 'r' => some '\r'
  | 't' => some '\t'
  | _ => none

/-- A character that stands for itself in a text. -/
def isPlain (c : Char) : Bool := c ≠ '"' && c ≠ '\\' && 32 ≤ c.toNat

/-- An escape in a text. -/
def escaped : Reader Piece := do
  char '\\'
  let e ← one fun _ => true
  if e = 'u' then return .unit (numberOf 16 (← exactly 4 isHexDigit))
  match escapeLetter e with
  | some c => return .char c
  | none => failure

/-- The next pieces of a text: a run of plain characters, or an escape. -/
def pieces : Reader (List Piece) := do
  if (← peek) = some '\\' then return [← escaped]
  return (← takeWhile1 isPlain).map .char

/-- The characters that pieces spell, two units of a surrogate pair spelling one. -/
def charactersOf : List Piece → Option (List Char)
  | [] => some []
  | .char c :: ps => (charactersOf ps).map (c :: ·)
  | .unit n :: ps =>
    if n < 0xD800 || 0xDFFF < n then (charactersOf ps).map (Char.ofNat n :: ·)
    else
      match ps with
      | .unit m :: qs =>
        if n ≤ 0xDBFF && 0xDC00 ≤ m && m ≤ 0xDFFF then
          (charactersOf qs).map (Char.ofNat (0x10000 + (n - 0xD800) * 0x400 + (m - 0xDC00)) :: ·)
        else none
      | _ => none

/-- A text in quotes, kept if it spells characters. -/
def quoted : Reader (Option String) := do
  char '"'
  let runs ← many pieces
  char '"'
  return (charactersOf runs.flatten).map String.ofList

/-! ### Numbers -/

/-- The digits of a whole number: no leading zero. -/
def wholeDigits : Reader (List Char) := do
  let digits ← takeWhile1 Char.isDigit
  if 1 < digits.length && digits.head? = some '0' then failure
  return digits

/-- The part of a number after its dot. -/
def fraction : Reader (List Char) := do
  char '.'
  return '.' :: (← takeWhile1 Char.isDigit)

/-- The exponent of a number. -/
def exponent : Reader (List Char) := do
  let e ← one fun c => c = 'e' || c = 'E'
  let sign ← maybe (one fun c => c = '+' || c = '-')
  return e :: sign.toList ++ (← takeWhile1 Char.isDigit)

/-- A number. -/
def number : Reader Json := do
  let sign ← maybe (char '-')
  let digits ← wholeDigits
  let fraction ← maybe fraction
  let exponent ← maybe exponent
  let spelling := fraction.getD [] ++ exponent.getD []
  if spelling = [] && !(sign.isSome && digits = ['0']) then
    let n : Int := numberOf 10 digits
    return .int (if sign.isSome then -n else n)
  return .decimal (String.ofList ((if sign.isSome then ['-'] else []) ++ digits ++ spelling))

/-! ### Values -/

mutual

/-- A value nested at most `depth` deep, and the blanks after it. -/
def value : (depth : Nat) → Reader Json
  | 0 => failure
  | depth + 1 => do
    let j ← match ← peek with
      | some 'n' => do word ['n', 'u', 'l', 'l']; pure .null
      | some 't' => do word ['t', 'r', 'u', 'e']; pure (.bool true)
      | some 'f' => do word ['f', 'a', 'l', 's', 'e']; pure (.bool false)
      | some '"' => .text <$> quoted
      | some '[' => do
        char '['; blanks
        let items ← separated (value depth) (do char ','; blanks)
        char ']'
        pure (.array items)
      | some '\x7b' => do
        char '\x7b'; blanks
        let fields ← separated (field depth) (do char ','; blanks)
        char '\x7d'
        pure (.object fields)
      | _ => number
    blanks
    return j

/-- A field of an object, and the blanks after it. -/
def field : (depth : Nat) → Reader (Option String × Json)
  | 0 => failure
  | depth + 1 => do
    let name ← quoted
    blanks; char ':'; blanks
    return (name, ← value depth)

end

/-- The value a document holds. Nothing nests deeper than the document is long. -/
def parse (document : String) : Option Json :=
  let cs := document.toList
  (do blanks; value (2 * cs.length + 2) : Reader Json).whole cs

end Json

end Recompile
