import Integrity.Bytes
import Integrity.Text.Numeral

/-!
# Reading JSON from the left

The parts of JSON text that do not contain one another: blanks, words, strings and numbers. Reading
stops at the first fault, and a fault has one of three kinds.
-/

namespace Integrity.Json

/-- Why a text was not read. -/
inductive ReadError where
  | malformed
  | truncated
  | mismatched
deriving DecidableEq, Repr

/-- Whether a character may stand between the parts of a text. -/
def isBlank (c : Char) : Bool :=
  c == ' ' || c == '\n' || c == '\t' || c == '\r'

/-- The text after the blanks at its front. -/
def skipBlanks (text : List Char) : List Char :=
  text.dropWhile isBlank

/-- Reads the letters of a word. -/
def readWord : (word text : List Char) → Except ReadError (List Char)
  | [], text => .ok text
  | _ :: _, [] => .error .truncated
  | letter :: word, c :: text => if c = letter then readWord word text else .error .malformed

/-! ## Strings -/

/-- Where the reading of a string stands. -/
inductive StringMode where
  | plain
  | escaped
  /-- In the four digits of a unit, with the high half of a pair before it, if there is one. -/
  | digits (missing : Nat) (value : Nat) (high : Option Nat)
  | half (high : Nat)
  | halfEscaped (high : Nat)
deriving DecidableEq, Repr

/-- What the next character does. -/
inductive StringStep where
  | emit (c : Char)
  | go (mode : StringMode)
  | stop
  | fail (error : ReadError)

/-- Whether fewer than four bytes are left. -/
def isShort (text : List Char) : Bool :=
  (utf8 (text.take 4)).length < 4

/-- Whether a unit is the high half of a pair. -/
def isHighHalf (unit : Nat) : Bool :=
  0xD800 ≤ unit && unit ≤ 0xDBFF

/-- Whether a unit is the low half of a pair. -/
def isLowHalf (unit : Nat) : Bool :=
  0xDC00 ≤ unit && unit ≤ 0xDFFF

/-- What follows from a unit that is complete. When `strict` is not asked for, units are not
required to pair up. -/
def completeUnit (strict : Bool) (unit : Nat) (high : Option Nat) : StringStep :=
  if !strict then .emit '\x00'
  else
    match high with
    | some high =>
      let code := 0x10000 + (high - 0xD800) * 0x400 + (unit - 0xDC00)
      if isLowHalf unit then .emit (Char.ofNat code)
      else .fail .malformed
    | none =>
      if isLowHalf unit then .fail .malformed
      else if isHighHalf unit then .go (.half unit)
      else .emit (Char.ofNat unit)

/-- The start of the four digits of a unit. -/
def startUnit (high : Option Nat) (rest : List Char) : StringStep :=
  if isShort rest then .fail .truncated else .go (.digits 3 0 high)

/-- What a character does in a mode, with `rest` after it. -/
def stringStep (strict : Bool) (mode : StringMode) (c : Char) (rest : List Char) : StringStep :=
  match mode with
  | .plain =>
    if c = '"' then .stop
    else if c = '\\' then .go .escaped
    else if c.toNat < 0x20 then .fail .malformed
    else .emit c
  | .escaped =>
    if c = '"' ∨ c = '\\' ∨ c = '/' then .emit c
    else if c = 'b' then .emit '\x08'
    else if c = 'f' then .emit '\x0c'
    else if c = 'n' then .emit '\n'
    else if c = 'r' then .emit '\r'
    else if c = 't' then .emit '\t'
    else if c = 'u' then startUnit none rest
    else .fail .malformed
  | .digits missing value high =>
    match Numeral.hexDigit? c with
    | none => .fail .malformed
    | some digit =>
      match missing with
      | 0 => completeUnit strict (16 * value + digit) high
      | missing + 1 => .go (.digits missing (16 * value + digit) high)
  | .half high => if c = '\\' then .go (.halfEscaped high) else .fail .malformed
  | .halfEscaped high => if c = 'u' then startUnit (some high) rest else .fail .malformed

/-- Reads a string from a mode on, up to its closing quote. -/
def readString (strict : Bool) : StringMode → List Char → Except ReadError (List Char × List Char)
  | _, [] => .error .truncated
  | mode, c :: rest =>
    match stringStep strict mode c rest with
    | .fail error => .error error
    | .stop => .ok ([], rest)
    | .go mode => readString strict mode rest
    | .emit d =>
      match readString strict .plain rest with
      | .error error => .error error
      | .ok (chars, rest) => .ok (d :: chars, rest)

/-! ## Numbers -/

/-- A number as it is written. -/
structure NumberText where
  negative : Bool
  whole : List Char
  fraction : List Char
  /-- The exponent, if there is one: whether it is negative, and its digits. -/
  exponent : Option (Bool × List Char)
deriving DecidableEq, Repr

/-- Reads at least one digit. `short` is the fault when the text ends before it. -/
def readDigits (short : ReadError) (text : List Char) : Except ReadError (List Char × List Char) :=
  match Numeral.leading text with
  | [] => .error (if text.isEmpty then short else .malformed)
  | digits => .ok (digits, Numeral.trailing text)

/-- Reads a whole number without a sign: no zeros in front. -/
def readWhole (short : ReadError) (text : List Char) :
    Except ReadError (List Char × List Char) := do
  let (digits, rest) ← readDigits short text
  match digits with
  | '0' :: _ :: _ => throw .malformed
  | _ => return (digits, rest)

/-- Reads the digits after a point, if there is one. -/
def readFraction (short : ReadError) : List Char → Except ReadError (List Char × List Char)
  | '.' :: rest => readDigits short rest
  | text => .ok ([], text)

/-- The sign of an exponent, and the text after it. -/
def exponentSign : List Char → Bool × List Char
  | '+' :: rest => (false, rest)
  | '-' :: rest => (true, rest)
  | text => (false, text)

/-- Reads an exponent, if there is one. -/
def readExponent (short : ReadError) (text : List Char) :
    Except ReadError (Option (Bool × List Char) × List Char) :=
  match text with
  | c :: rest =>
    if c = 'e' ∨ c = 'E' then
      let (negative, rest) := exponentSign rest
      (readDigits short rest).map fun (digits, rest) => (some (negative, digits), rest)
    else .ok (none, text)
  | [] => .ok (none, text)

/-- Reads a number. `short` is the fault when the text ends within it. -/
def readNumber (short : ReadError) (text : List Char) :
    Except ReadError (NumberText × List Char) := do
  let (negative, text) :=
    match text with
    | '-' :: rest => (true, rest)
    | text => (false, text)
  let (whole, text) ← readWhole short text
  let (fraction, text) ← readFraction short text
  let (exponent, text) ← readExponent short text
  return (⟨negative, whole, fraction, exponent⟩, text)

/-- Whether a number can start with a character. -/
def startsNumber (c : Char) : Bool :=
  c == '-' || c.isDigit

/-! ## Punctuation -/

/-- Reads the colon between a key and its value. -/
def readColon (text : List Char) : Except ReadError (List Char) :=
  match skipBlanks text with
  | [] => .error .truncated
  | c :: rest => if c = ':' then .ok rest else .error .malformed

/-- What comes next in an object or an array. -/
inductive Next where
  | more (text : List Char)
  | done (rest : List Char)

/-- Looks for the next key of an object. The text of a key starts after its opening quote. -/
def nextKey (first : Bool) (text : List Char) : Except ReadError Next :=
  match skipBlanks text with
  | [] => .error .truncated
  | c :: rest =>
    if c = '}' then .ok (.done rest)
    else if first then
      if c = '"' then .ok (.more rest) else .error .malformed
    else if c = ',' then
      match skipBlanks rest with
      | [] => .error .truncated
      | c :: rest => if c = '"' then .ok (.more rest) else .error .malformed
    else .error .malformed

/-- Looks for the next element of an array. -/
def nextElement (first : Bool) (text : List Char) : Except ReadError Next :=
  match skipBlanks text with
  | [] => .error .truncated
  | c :: rest =>
    if c = ']' then .ok (.done rest)
    else if first then .ok (.more (c :: rest))
    else if c = ',' then
      match skipBlanks rest with
      | [] => .error .truncated
      | c :: rest => if c = ']' then .error .malformed else .ok (.more (c :: rest))
    else .error .malformed

/-- Reads the end of an array. -/
def endArray (text : List Char) : Except ReadError (List Char) :=
  match skipBlanks text with
  | [] => .error .truncated
  | c :: rest => if c = ']' then .ok rest else .error .malformed

/-- Reads the end of a text. -/
def endText (text : List Char) : Except ReadError Unit :=
  if (skipBlanks text).isEmpty then .ok () else .error .malformed

end Integrity.Json
