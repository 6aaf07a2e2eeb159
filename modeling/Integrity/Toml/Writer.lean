import Integrity.Text.Numeral
import Integrity.Toml.Scan

/-!
# Writing TOML

A string is written in the first of these forms that holds it without an escape: between double
quotes, between single quotes, on several lines between double quotes, on several lines between
single quotes. Only a string that fits none of them is written with escapes.
-/

namespace Integrity.Toml

/-! ## Strings -/

/-- The length of the longest run of a character. -/
def longestRun (c : Char) (text : List Char) : Nat :=
  (text.foldl (fun (best, run) d => if d = c then (max best (run + 1), run + 1) else (best, 0))
    (0, 0)).1

/-- Whether a character can only be written with an escape. -/
def isControl (c : Char) : Bool :=
  (c.toNat < 0x20 && c != '\t' && c != '\n') || c.toNat == 0x7F

/-- The escape of a control. -/
def escapeControl (c : Char) : List Char :=
  if c = '\x08' then ['\\', 'b']
  else if c = '\x0c' then ['\\', 'f']
  else if c = '\r' then ['\\', 'r']
  else
    ['\\', 'u', '0', '0', (Nat.digitChar (c.toNat / 16)).toUpper,
      (Nat.digitChar (c.toNat % 16)).toUpper]

/-- A character of a string of one line between double quotes. -/
def escape (c : Char) : List Char :=
  if c = '"' ∨ c = '\\' then ['\\', c]
  else if c = '\t' then ['\\', 't']
  else if c = '\n' then ['\\', 'n']
  else if isControl c then escapeControl c
  else [c]

/-- A string of several lines between double quotes, after `run` quotes of it. Every third quote of
a run is escaped. -/
def escapeLines (run : Nat) : List Char → List Char
  | [] => []
  | c :: rest =>
    if c = '"' then
      if run = 2 then '\\' :: '"' :: escapeLines 0 rest else '"' :: escapeLines (run + 1) rest
    else if c = '\n' then '\n' :: escapeLines 0 rest
    else escape c ++ escapeLines 0 rest

/-- A string of one line between double quotes. -/
def basic (text : List Char) : List Char :=
  '"' :: text.flatMap escape ++ ['"']

/-- A string of one line between single quotes. -/
def literal (text : List Char) : List Char :=
  '\x27' :: text ++ ['\x27']

/-- The line end that opens a string of several lines, if it has any. -/
def opening (text : List Char) : List Char :=
  if text.contains '\n' then ['\n'] else []

/-- A string of several lines between double quotes. -/
def basicLines (text : List Char) : List Char :=
  ['"', '"', '"'] ++ opening text ++ escapeLines 0 text ++ ['"', '"', '"']

/-- A string of several lines between single quotes. -/
def literalLines (text : List Char) : List Char :=
  ['\x27', '\x27', '\x27'] ++ opening text ++ text ++ ['\x27', '\x27', '\x27']

/-- Whether a text needs escapes in every form. -/
def hasControl (text : List Char) : Bool :=
  text.any isControl

/-- Whether a text can stand between double quotes on one line as it is. -/
def fitsBasic (text : List Char) : Bool :=
  !hasControl text && !text.contains '\\' && !text.contains '"' && !text.contains '\n'

/-- Whether a text can stand between single quotes on one line. -/
def fitsLiteral (text : List Char) : Bool :=
  !hasControl text && !text.contains '\x27' && !text.contains '\n'

/-- Whether a text can stand on several lines between double quotes as it is. -/
def fitsBasicLines (text : List Char) : Bool :=
  !hasControl text && !text.contains '\\' && longestRun '"' text ≤ 2

/-- Whether a text can stand on several lines between single quotes. -/
def fitsLiteralLines (text : List Char) : Bool :=
  !hasControl text && longestRun '\x27' text ≤ 2

/-- A string. -/
def writeText (text : List Char) : List Char :=
  if fitsBasic text then basic text
  else if fitsLiteral text then literal text
  else if fitsBasicLines text then basicLines text
  else if fitsLiteralLines text then literalLines text
  else if text.contains '\n' then basicLines text
  else basic text

/-- A key. -/
def writeKey (key : List Char) : List Char :=
  if !key.isEmpty && key.all isBare then key
  else if fitsBasic key then basic key
  else if fitsLiteral key then literal key
  else basic key

/-! ## Statements -/

/-- An assignment, on a line of its own. -/
def writeAssignment (key : String) (value : List Char) : List Char :=
  writeKey key.toList ++ [' ', '=', ' '] ++ value ++ ['\n']

/-- An array: two or more elements are written one on a line. -/
def writeArray : List (List Char) → List Char
  | [] => ['[', ']']
  | [element] => '[' :: element ++ [']']
  | elements =>
    ['[', '\n'] ++ elements.flatMap (fun element => [' ', ' ', ' ', ' '] ++ element ++ [',', '\n'])
      ++ [']']

/-- A header, on a line of its own. -/
def writeHeader (path : List String) : List Char :=
  '[' :: (List.intercalate ['.'] (path.map fun key => writeKey key.toList)) ++ [']', '\n']

end Integrity.Toml
