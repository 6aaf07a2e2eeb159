/-!
# Writing JSON

Objects are written without blanks, their members in a given order. In a string the quote, the
backslash and the controls are escaped, the usual controls by a letter.
-/

namespace Integrity.Json

/-- The letter that stands for a character after a backslash, if there is one. -/
def escapeLetter? (c : Char) : Option Char :=
  if c = '"' ∨ c = '\\' then some c
  else if c = '\x08' then some 'b'
  else if c = '\t' then some 't'
  else if c = '\n' then some 'n'
  else if c = '\x0c' then some 'f'
  else if c = '\r' then some 'r'
  else none

/-- A character within a string. -/
def escape (c : Char) : List Char :=
  match escapeLetter? c with
  | some letter => ['\\', letter]
  | none =>
    if c.toNat < 0x20 then
      ['\\', 'u', '0', '0', Nat.digitChar (c.toNat / 16), Nat.digitChar (c.toNat % 16)]
    else [c]

/-- A string. -/
def writeText (text : List Char) : List Char :=
  '"' :: text.flatMap escape ++ ['"']

/-- A truth value. -/
def writeFlag (flag : Bool) : List Char :=
  if flag then "true".toList else "false".toList

/-- A member of an object. -/
def writeMember (key : String) (value : List Char) : List Char :=
  writeText key.toList ++ ':' :: value

/-- Texts with commas between them. -/
def separated : List (List Char) → List Char
  | [] => []
  | [text] => text
  | text :: rest => text ++ ',' :: separated rest

/-- An object with members whose values are written. -/
def writeObject (members : List (String × List Char)) : List Char :=
  '{' :: separated (members.map fun (key, value) => writeMember key value) ++ ['}']

end Integrity.Json
