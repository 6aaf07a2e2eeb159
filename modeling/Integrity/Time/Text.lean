import Integrity.Text.Blank
import Integrity.Text.Numeral
import Integrity.Time.Timestamp

/-!
# Moments as text

A moment is written `2024-02-29T12:34:56.123Z`: a year outside the four-digit years has a sign, and
the fraction has as many groups of three digits as it needs. What is read may stand in another
time zone and may have blanks between its parts.
-/

namespace Integrity.Timestamp

/-- The last `width` decimal digits of a number. -/
def digits : (width : Nat) → (n : Nat) → List Char
  | 0, _ => []
  | width + 1, n => digits width (n / 10) ++ [Nat.digitChar (n % 10)]

/-- A year as it is written. -/
def yearText (year : Int) : List Char :=
  if 0 ≤ year ∧ year ≤ 9999 then digits 4 year.toNat
  else
    let numeral := Numeral.ofNat year.natAbs
    (if year < 0 then '-' else '+') :: List.replicate (4 - numeral.length) '0' ++ numeral

/-- The fraction of a second as it is written. -/
def fractionText (nanos : Nat) : List Char :=
  if nanos = 0 then []
  else if nanos % 1000000 = 0 then '.' :: digits 3 (nanos / 1000000)
  else if nanos % 1000 = 0 then '.' :: digits 6 (nanos / 1000)
  else '.' :: digits 9 nanos

/-- A moment as it is written. -/
def toText (t : Timestamp) : List Char :=
  yearText t.date.year ++ ['-'] ++ digits 2 t.date.month ++ ['-'] ++ digits 2 t.date.day ++ ['T']
    ++ digits 2 t.hour ++ [':'] ++ digits 2 t.minute ++ [':'] ++ digits 2 t.second
    ++ fractionText t.nanos ++ ['Z']

/-- At least one and at most `most` digits at the front of a text, and what follows them. -/
def readNumber (most : Nat) (text : List Char) : Option (Nat × List Char) :=
  let found := Numeral.leading (text.take most)
  if found.isEmpty then none
  else some (Numeral.value found, text.drop found.length)

/-- A number of at most two digits, after blanks. -/
def readPair (text : List Char) : Option (Nat × List Char) :=
  readNumber 2 (Text.trimLeft text)

/-- A year, after blanks: four digits at most, or any number of them after a sign. -/
def readYear (text : List Char) : Option (Int × List Char) :=
  match Text.trimLeft text with
  | '-' :: rest => (readNumber rest.length rest).map fun (n, rest) => (-(n : Int), rest)
  | '+' :: rest => (readNumber rest.length rest).map fun (n, rest) => ((n : Int), rest)
  | text => (readNumber 4 text).map fun (n, rest) => ((n : Int), rest)

/-- The text after a character that has to come, with blanks before it. -/
def readMark (mark : Char) (text : List Char) : Option (List Char) :=
  match Text.trimLeft text with
  | c :: rest => if c = mark then some rest else none
  | [] => none

/-- The fraction of a second, if a point announces one; digits after the ninth do not count. -/
def readFraction : List Char → Option (Nat × List Char)
  | '.' :: rest => do
    let (value, after) ← readNumber 9 rest
    let width := rest.length - after.length
    some (value * Nat.pow 10 (9 - width), Numeral.trailing after)
  | text => some (0, text)

/-- Minutes ahead of universal time: `Z`, `UTC`, or a sign, two digits, any colons and blanks, and
two digits. -/
def readOffset (text : List Char) : Option (Int × List Char) :=
  match text with
  | 'Z' :: rest | 'z' :: rest => some (0, rest)
  | sign :: rest =>
    if (text.take 3).map Char.toUpper = ['U', 'T', 'C'] then some (0, text.drop 3)
    else if sign = '+' ∨ sign = '-' ∨ sign = '\u2212' then
      match rest with
      | h₁ :: h₂ :: rest =>
        match rest.dropWhile fun c => c = ':' || Text.isBlank c with
        | m₁ :: m₂ :: rest =>
          if h₁.isDigit && h₂.isDigit && m₁.isDigit && m₂.isDigit then
            let hours := Numeral.value [h₁, h₂]
            let minutes := Numeral.value [m₁, m₂]
            if minutes ≤ 59 ∧ hours ≤ 23 then
              let total : Int := hours * 60 + minutes
              some (if sign = '+' then total else -total, rest)
            else none
          else none
        | _ => none
      | _ => none
    else none
  | [] => none

/-- Reads a moment and turns it to universal time. -/
def ofText (text : List Char) : Option Timestamp := do
  let (year, text) ← readYear text
  let text ← readMark '-' text
  let (month, text) ← readPair text
  let text ← readMark '-' text
  let (day, text) ← readPair text
  let text ←
    match text with
    | 'T' :: text | 't' :: text | ' ' :: text => some text
    | _ => none
  let (hour, text) ← readPair text
  let text ← readMark ':' text
  let (minute, text) ← readPair text
  let text ← readMark ':' text
  let (second, text) ← readPair text
  let (nanos, text) ← readFraction text
  let (offset, text) ← readOffset (Text.trimLeft text)
  let t : Timestamp := ⟨⟨year, month, day⟩, hour, minute, second, nanos⟩
  if (Text.trimLeft text).isEmpty && t.isValid && (t.behind offset).isValid then
    some (t.behind offset)
  else none

end Integrity.Timestamp
