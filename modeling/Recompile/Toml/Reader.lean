import Recompile.Toml.Scalar

/-!
# Reading TOML

A document is read line by line; the lines then build its table. A fault of the grammar, or a
line that may not extend the table, refuses the whole document.
-/

namespace Recompile

namespace Toml

open Reader

/-! ### Values -/

/-- The items of an array of `item`s, after the opening bracket. -/
def arrayOf (item : Reader Value) : Reader Value := do
  char '['
  let items ← separated (do blankLines; let v ← item; blankLines; return v) (char ',')
  if !items.isEmpty then
    let _ ← maybe (char ',')
  blankLines
  char ']'
  return .array items

/-- A table in braces, within one line, with values read by `item`. -/
def bracesOf (item : Reader Value) : Reader Value := do
  char '\x7b'
  let assignments ← separated
    (do let path ← key; char '='; blanks; let v ← item; blanks; return (path, v))
    (char ',')
  blanks
  char '\x7d'
  match bracesTable? assignments with
  | some v => return v
  | none => failure

/-- A value with at most `depth` brackets and braces around its scalars. -/
def value : (depth : Nat) → Reader Value
  | 0 => .text <$> text <|> numeric <|> bool
  | depth + 1 =>
    arrayOf (value depth) <|> bracesOf (value depth) <|> .text <$> text <|> numeric <|> bool

/-! ### Lines -/

/-- A header with its line. -/
def header : Reader Statement := do
  char '['
  let path ← key
  char ']'
  lineRest
  return .header path

/-- A header in double brackets with its line. -/
def listHeader : Reader Statement := do
  word ['[', '[']
  let path ← key
  word [']', ']']
  lineRest
  return .listHeader path

/-- An assignment with its line. -/
def assignment : Reader Statement := do
  let path ← key
  char '='
  blanks
  let v ← value (depthLimit - 1)
  lineRest
  return .assignment path v

/-- A line, and the blanks in front of the next one. -/
def statement : Reader Statement := do
  let s ←
    (fun _ => .blank) <$> newline
      <|> (do comment; lineEnd; return .blank)
      <|> listHeader <|> header <|> assignment
  blanks
  return s

/-- All lines of a document. A byte order mark in front does not count. -/
def statements : Reader (List Statement) := do
  let _ ← maybe (char '\ufeff')
  blanks
  many statement

/-- The table a document holds. -/
def parse (document : String) : Option Value := do
  document? (← statements.whole document.toList)

end Toml

end Recompile
