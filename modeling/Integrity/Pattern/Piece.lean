import Integrity.Text.Blank
import Integrity.Text.Numeral

/-!
# Pieces of a pattern

A pattern describes texts. Most of its characters stand for themselves; a backslash takes the
meaning of a character away, or gives it one. What a piece may be depends on switches, since the
letters of all scripts are not known here: no piece can ignore their case or sort them into classes,
and no piece may match a part of a character.
-/

namespace Integrity.Pattern

/-- How a pattern is read. -/
structure Mode where
  ignoresCase : Bool
  /-- Whether pieces stand for characters of all scripts; otherwise they stand for bytes. -/
  isUniversal : Bool
  isSpaced : Bool
deriving DecidableEq, Repr

namespace Mode

/-- The mode at the beginning of a pattern. -/
def start : Mode :=
  ⟨false, true, false⟩

/-- Whether a character can stand for itself, given whether it is written as a byte. -/
def admitsLiteral (mode : Mode) (c : Char) (isByte : Bool) : Bool :=
  if mode.isUniversal then !mode.ignoresCase else !isByte || c.toNat < 0x80

/-- Whether a character can be a member of a set. -/
def admitsMember (mode : Mode) (c : Char) : Bool :=
  if mode.isUniversal then !mode.ignoresCase else c.toNat < 0x80

/-- Whether the digits, blanks or letters of words can be matched, or all but these. -/
def admitsShorthand (mode : Mode) (negated : Bool) : Bool :=
  !mode.isUniversal && !negated

/-- Whether a class of ASCII characters can be a member of a set, or all but the class. -/
def admitsClass (mode : Mode) (negated : Bool) : Bool :=
  if mode.isUniversal then !mode.ignoresCase else !negated

/-- Whether all but a set can be matched. -/
def admitsComplement (mode : Mode) : Bool :=
  mode.isUniversal

end Mode

/-- The text after the blanks and comments at its front. A comment begins with `#` and ends with its
line. -/
def afterFiller (inComment : Bool) : List Char → List Char
  | [] => []
  | c :: rest =>
    if inComment then afterFiller (c != '\n') rest
    else if Text.isBlank c then afterFiller false rest
    else if c = '#' then afterFiller true rest
    else c :: rest

/-- The text from the next piece on. -/
def Mode.skip (mode : Mode) (text : List Char) : List Char :=
  if mode.isSpaced then afterFiller false text else text

/-- A piece of a pattern that holds no other. -/
inductive Piece where
  | literal (c : Char) (isByte : Bool)
  | edge
  | wordEdge
  | shorthand (negated : Bool)
deriving DecidableEq, Repr

/-- Reads the digits of a character that is given by its number, behind which come `digits` more.
Filler may stand between them. -/
def readCode (mode : Mode) (isByte : Bool) : (digits value : Nat) → (text : List Char) →
    Option (Piece × List Char)
  | 0, value, text =>
    if h : value.isValidChar then some (.literal (Char.ofNatAux value h) isByte, text) else none
  | digits + 1, value, text =>
    match mode.skip text with
    | [] => none
    | c :: rest => do readCode mode isByte digits (16 * value + (← Numeral.hexDigit? c)) rest

/-- The control character that a letter after a backslash stands for. -/
def control? (c : Char) : Option Char :=
  if c = 'a' then some '\x07'
  else if c = 'f' then some '\x0c'
  else if c = 't' then some '\t'
  else if c = 'n' then some '\n'
  else if c = 'r' then some '\r'
  else if c = 'v' then some '\x0b'
  else none

/-- Whether a backslash may take the meaning of a character away. -/
def isQuotable (c : Char) : Bool :=
  c.toNat < 0x80 && !c.isAlphanum && c != '<' && c != '>'

/-- Reads what follows a backslash. -/
def readEscape (mode : Mode) : List Char → Option (Piece × List Char)
  | [] => none
  | c :: rest =>
    if c = 'x' then readCode mode true 2 0 rest
    else if c = 'u' then readCode mode false 4 0 rest
    else if c = 'U' then readCode mode false 8 0 rest
    else if c = 'd' ∨ c = 's' ∨ c = 'w' then some (.shorthand false, rest)
    else if c = 'D' ∨ c = 'S' ∨ c = 'W' then some (.shorthand true, rest)
    else if c = 'A' ∨ c = 'z' then some (.edge, rest)
    else if c = 'b' ∨ c = 'B' ∨ c = '<' ∨ c = '>' then some (.wordEdge, rest)
    else if isQuotable c then some (.literal c false, rest)
    else (control? c).map fun c => (.literal c false, rest)

end Integrity.Pattern
