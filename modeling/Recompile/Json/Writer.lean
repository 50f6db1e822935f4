import Recompile.Json.Basic

/-!
# Writing JSON

Values are written without blanks. In a text, the quote, the backslash and the control
characters below the blank are escaped, by a letter where there is one.
-/

namespace Recompile

namespace Json

/-- A digit of base sixteen, in lower case. -/
def hexDigit (n : Nat) : Char := if n < 10 then Char.ofNat (48 + n) else Char.ofNat (87 + n)

/-- One character of a text as it is written. -/
def escape (c : Char) : List Char :=
  if c = '"' then ['\\', '"']
  else if c = '\\' then ['\\', '\\']
  else if c = '\n' then ['\\', 'n']
  else if c = '\r' then ['\\', 'r']
  else if c = '\t' then ['\\', 't']
  else if c = '\x08' then ['\\', 'b']
  else if c = '\x0c' then ['\\', 'f']
  else if c.toNat < 32 then
    ['\\', 'u', '0', '0', hexDigit (c.toNat / 16), hexDigit (c.toNat % 16)]
  else [c]

/-- A text in quotes, after what is written already. -/
def writeText (t : String) (out : String) : String :=
  (t.toList.foldl (fun out c => (escape c).foldl String.push out) (out.push '"')).push '"'

mutual

/-- A value, after what is written already. -/
def writeAfter : Json → String → String
  | .null, out => out ++ "null"
  | .bool b, out => out ++ if b then "true" else "false"
  | .int n, out => out ++ toString n
  | .decimal spelling, out => out ++ spelling
  | .text (some t), out => writeText t out
  | .text none, out => out ++ "null"
  | .array items, out => (writeItems items true (out.push '[')).push ']'
  | .object fields, out => (writeFields fields true (out.push '\x7b')).push '\x7d'

/-- Items with commas between them. -/
def writeItems : List Json → Bool → String → String
  | [], _, out => out
  | j :: js, first, out => writeItems js false (writeAfter j (if first then out else out.push ','))

/-- Fields with commas between them. -/
def writeFields : List (Option String × Json) → Bool → String → String
  | [], _, out => out
  | (name, j) :: fs, first, out =>
    let out := if first then out else out.push ','
    writeFields fs false (writeAfter j ((writeText (name.getD "") out).push ':'))

end

/-- A value without blanks. -/
def compact (j : Json) : String := writeAfter j ""

end Json

end Recompile
