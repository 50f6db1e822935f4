import Recompile.Toml.Basic
import Recompile.Text.Reading

/-!
# TOML scalars

Blanks, comments, keys, texts, numbers and dates.
-/

namespace Recompile

namespace Toml

open Reader

/-! ### Blanks and comments -/

/-- A blank within a line. -/
def isBlank (c : Char) : Bool := c = ' ' || c = '\t'

/-- Any number of blanks. -/
def blanks : Reader Unit := do let _ ← takeWhile isBlank

/-- The end of a line. A carriage return counts only before a line feed. -/
def newline : Reader Unit := char '\n' <|> word ['\r', '\n']

/-- A character of a comment: the tab, and all that is not a control character. -/
def isCommentChar (c : Char) : Bool := c = '\t' || (32 ≤ c.toNat && c.toNat ≠ 127)

/-- A comment up to the end of its line. -/
def comment : Reader Unit := do
  char '#'
  let _ ← takeWhile isCommentChar

/-- The end of a line or of the document. -/
def lineEnd : Reader Unit := newline <|> atEnd

/-- The blanks and the comment a line may end with. -/
def lineRest : Reader Unit := do
  blanks
  let _ ← maybe comment
  lineEnd

/-- Blanks, line ends and comments between the items of an array. -/
def blankLines : Reader Unit := do
  let _ ← many ((fun _ => ()) <$> takeWhile1 isBlank <|> newline <|> (do comment; newline))

/-! ### Texts -/

/-- A character that stands for itself between quotes. -/
def isPlain (c : Char) : Bool := isCommentChar c && c ≠ '"' && c ≠ '\\'

/-- A character that stands for itself between apostrophes. -/
def isVerbatim (c : Char) : Bool := isCommentChar c && c ≠ '\''

/-- The character with the given number. -/
def scalar (n : Nat) : Reader Char := if n.isValidChar then pure (Char.ofNat n) else failure

/-- An escape between quotes. -/
def escape : Reader Char := do
  char '\\'
  match ← one fun _ => true with
  | 'b' => return '\x08'
  | 'f' => return '\x0c'
  | 'n' => return '\n'
  | 'r' => return '\r'
  | 't' => return '\t'
  | '"' => return '"'
  | '\\' => return '\\'
  | 'u' => scalar (numberOf 16 (← exactly 4 isHexDigit))
  | 'U' => scalar (numberOf 16 (← exactly 8 isHexDigit))
  | _ => failure

/-- A text between quotes. -/
def basicText : Reader (List Char) := do
  char '"'
  let parts ← many (takeWhile1 isPlain <|> (fun c => [c]) <$> escape)
  char '"'
  return parts.flatten

/-- A text between apostrophes. -/
def literalText : Reader (List Char) := do
  char '\''
  let t ← takeWhile isVerbatim
  char '\''
  return t

/-- Up to two quotes inside a text of several lines. -/
def innerQuotes (quote : Char) : Reader (List Char) := do
  let quotes ← takeWhile1 (· = quote)
  if 2 < quotes.length then failure
  return quotes

/-- The quotes that end a text of several lines. Up to two more before them belong to the text. -/
def closingQuotes (quote : Char) : Reader (List Char) := do
  let quotes ← takeWhile (· = quote)
  if quotes.length < 3 || 5 < quotes.length then failure
  return quotes.drop 3

/-- A line end that a backslash removes, with all blanks and line ends around it. -/
def removedLineEnd : Reader Unit := do
  char '\\'
  blanks
  newline
  let _ ← many ((fun _ => ()) <$> takeWhile1 isBlank <|> newline)

/-- A text of several lines between triple quotes. -/
def basicLines : Reader (List Char) := do
  word ['"', '"', '"']
  let _ ← maybe newline
  let parts ← many
    (takeWhile1 isPlain
      <|> (fun _ => []) <$> removedLineEnd
      <|> (fun c => [c]) <$> escape
      <|> (fun _ => ['\n']) <$> newline
      <|> innerQuotes '"')
  return parts.flatten ++ (← closingQuotes '"')

/-- A text of several lines between triple apostrophes. -/
def literalLines : Reader (List Char) := do
  word ['\'', '\'', '\'']
  let _ ← maybe newline
  let parts ← many
    (takeWhile1 isVerbatim <|> (fun _ => ['\n']) <$> newline <|> innerQuotes '\'')
  return parts.flatten ++ (← closingQuotes '\'')

/-- A text of any of the four kinds. -/
def text : Reader String :=
  String.ofList <$> (basicLines <|> literalLines <|> basicText <|> literalText)

/-! ### Keys -/

/-- A character of a key without quotes. -/
def isBareKeyChar (c : Char) : Bool := c.isAlphanum || c = '-' || c = '_'

/-- One step of a key. -/
def simpleKey : Reader String :=
  String.ofList <$> (basicText <|> literalText <|> takeWhile1 isBareKeyChar)

/-- How deep keys and values may nest. -/
def depthLimit : Nat := 80

/-- A key: steps with dots between them. -/
def key : Reader (List String) := do
  let path ← separated (do blanks; let k ← simpleKey; blanks; return k) (char '.')
  if path = [] || depthLimit ≤ path.length then failure
  return path

/-! ### Numbers -/

/-- Digits, with single underscores between them. -/
def digits (isDigit : Char → Bool) : Reader (List Char) := do
  let d ← one isDigit
  return d :: (← many (do let _ ← maybe (char '_'); one isDigit))

/-- A sign. -/
def sign : Reader Char := one fun c => c = '+' || c = '-'

/-- The digits of a decimal number: no leading zero. -/
def decimalDigits : Reader (List Char) := do
  if (← peek) = some '0' then
    char '0'
    return ['0']
  digits Char.isDigit

/-- An integer has 64 bits. -/
def integerInRange (n : Int) : Reader Value :=
  if Int64.minValue.toInt ≤ n && n ≤ Int64.maxValue.toInt then pure (.integer n) else failure

/-- An integer in a base other than ten, after a zero and a letter. -/
def basedInteger (letter : Char) (base : Nat) (isDigit : Char → Bool) : Reader Value := do
  word ['0', letter]
  integerInRange (numberOf base (← digits isDigit))

/-- A decimal integer. -/
def decimalInteger : Reader Value := do
  let s ← maybe sign
  let n : Int := numberOf 10 (← decimalDigits)
  integerInRange (if s = some '-' then -n else n)

/-- An integer. -/
def integer : Reader Value :=
  basedInteger 'x' 16 isHexDigit
    <|> basedInteger 'o' 8 (fun c => '0' ≤ c && c ≤ '7')
    <|> basedInteger 'b' 2 (fun c => c = '0' || c = '1')
    <|> decimalInteger

/-- The part of a number after its dot. -/
def fraction : Reader (List Char) := do
  char '.'
  digits Char.isDigit

/-- The exponent of a number. -/
def exponent : Reader Int := do
  let _ ← one fun c => c = 'e' || c = 'E'
  let s ← maybe sign
  let n : Int := numberOf 10 (← digits Char.isDigit)
  return if s = some '-' then -n else n

/-- From here on a number is rounded to infinity: the largest number of 64 bits and half a step. -/
def infinityBound : Nat := Nat.pow 2 1024 - Nat.pow 2 970

/-- Whether a number of the given digits, scaled by a power of ten, is rounded to infinity. -/
def isInfinite (digits : List Char) (scale : Int) : Bool :=
  let n := numberOf 10 digits
  let size : Int := digits.length + scale
  if n = 0 || size < 300 then false
  else if 310 < (digits.dropWhile (· = '0')).length + scale then true
  else infinityBound * Nat.pow 10 (-scale).toNat ≤ n * Nat.pow 10 scale.toNat

/-- A number with a fraction or an exponent. One above zero may not be rounded to infinity. -/
def float : Reader Value := do
  let s ← maybe sign
  let whole ← decimalDigits
  let part ← maybe fraction
  let power ← maybe exponent
  if part.isNone && power.isNone then failure
  let part := part.getD []
  if s ≠ some '-' && isInfinite (whole ++ part) (power.getD 0 - part.length) then failure
  return .float

/-- Infinity, or no number. -/
def specialFloat : Reader Value := do
  let _ ← maybe sign
  word ['i', 'n', 'f'] <|> word ['n', 'a', 'n']
  return .float

/-! ### Dates -/

/-- A number of two digits in a range. -/
def twoDigits (least greatest : Nat) : Reader Nat := do
  let n := numberOf 10 (← exactly 2 Char.isDigit)
  if n < least || greatest < n then failure
  return n

/-- The days of a month. -/
def daysIn (year month : Nat) : Nat :=
  if month = 2 then
    if year % 4 = 0 && (year % 100 ≠ 0 || year % 400 = 0) then 29 else 28
  else if month = 4 || month = 6 || month = 9 || month = 11 then 30
  else 31

/-- A day of the calendar. -/
def day : Reader Unit := do
  let year := numberOf 10 (← exactly 4 Char.isDigit)
  char '-'
  let month ← twoDigits 1 12
  char '-'
  let _ ← twoDigits 1 (daysIn year month)

/-- A time of the day. A minute may have a leap second. -/
def time : Reader Unit := do
  let _ ← twoDigits 0 23
  char ':'
  let _ ← twoDigits 0 59
  char ':'
  let _ ← twoDigits 0 60
  let _ ← maybe (do char '.'; takeWhile1 Char.isDigit)

/-- The distance of a time from universal time. -/
def offset : Reader Unit :=
  (fun _ => ()) <$> one (fun c => c = 'Z' || c = 'z')
    <|> (do let _ ← sign; let _ ← twoDigits 0 23; char ':'; let _ ← twoDigits 0 59)

/-- A day, a time, or both. -/
def date : Reader Value := do
  (do
    day
    let _ ← maybe (do
      let _ ← one fun c => c = 'T' || c = 't' || c = ' '
      time
      maybe offset))
    <|> time
  return .date

/-- A number or a date. -/
def numeric : Reader Value := date <|> float <|> specialFloat <|> integer

/-- A truth value. -/
def bool : Reader Value :=
  (do word ['t', 'r', 'u', 'e']; return .bool true)
    <|> (do word ['f', 'a', 'l', 's', 'e']; return .bool false)

end Toml

end Recompile
