import Recompile.Text.Unprintable

/-!
# Quoted text

A text between quotes, on one line and in characters that show: the quote, the backslash and
the usual controls are escaped by a letter, everything else that does not show by its number.
-/

namespace Recompile

namespace Quoted

/-- A number in base sixteen, in lower case. -/
def hex (n : Nat) : List Char := Nat.toDigits 16 n

/-- One character between quotes. -/
def escape (c : Char) : List Char :=
  if c = '"' then ['\\', '"']
  else if c = '\\' then ['\\', '\\']
  else if c = '\n' then ['\\', 'n']
  else if c = '\r' then ['\\', 'r']
  else if c = '\t' then ['\\', 't']
  else if c = '\x00' then ['\\', '0']
  else if isUnprintable c then '\\' :: 'u' :: '\x7b' :: hex c.toNat ++ ['\x7d']
  else [c]

/-- A text in quotes. -/
def quote (t : String) : String := String.ofList ('"' :: t.toList.flatMap escape ++ ['"'])

/-- A text as it stands within quotes of another format, which escapes only the quote and the
backslash. -/
def nest (t : String) : String :=
  String.ofList (t.toList.flatMap fun c => if c = '"' || c = '\\' then ['\\', c] else [c])

end Quoted

end Recompile
