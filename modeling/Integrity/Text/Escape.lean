import Integrity.Text.Visible

/-!
# Text inside quotes

Messages quote characters and texts so that every one of them can be seen: the usual controls have
short escapes, the enclosing quote and the backslash are escaped, and a character that cannot be
shown by itself is written as its code point.
-/

namespace Integrity.Text

/-- The code point of a character in lower-case hexadecimal, without leading zeros. -/
def codePoint (c : Char) : List Char :=
  Nat.toDigits 16 c.toNat

/-- One character as it is written between two `quote` characters. -/
def escapeWithin (quote c : Char) : List Char :=
  if c = '\x00' then ['\\', '0']
  else if c = '\t' then ['\\', 't']
  else if c = '\r' then ['\\', 'r']
  else if c = '\n' then ['\\', 'n']
  else if c = '\\' ∨ c = quote then ['\\', c]
  else if isVisible c then [c]
  else ['\\', 'u', '\x7b'] ++ codePoint c ++ ['\x7d']

/-- A character between single quotes. -/
def quotedChar (c : Char) : String :=
  String.ofList (['\x27'] ++ escapeWithin '\x27' c ++ ['\x27'])

/-- A text between double quotes. -/
def quoted (text : String) : String :=
  String.ofList (['"'] ++ text.toList.flatMap (escapeWithin '"') ++ ['"'])

end Integrity.Text
