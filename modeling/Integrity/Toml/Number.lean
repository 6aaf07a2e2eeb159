import Integrity.Datum
import Integrity.Time.Timestamp
import Integrity.Toml.Scan
import Integrity.Width

/-!
# Numbers and moments in TOML

Whole numbers fit 64 bits with a sign and may be written in three other bases. Single underscores
may stand between digits. Moments are dates, times of day, or both, and are kept as text in their
usual form.
-/

namespace Integrity.Toml

/-! ## Numbers -/

/-- Digits in a row, with single underscores between them, after a first digit. -/
def readRun (isDigit : Char → Bool) : List Char → Option (List Char × List Char)
  | [] => some ([], [])
  | ['_'] => none
  | '_' :: c :: rest =>
    if isDigit c then (readRun isDigit rest).map fun (digits, rest) => (c :: digits, rest)
    else none
  | c :: rest =>
    if isDigit c then (readRun isDigit rest).map fun (digits, rest) => (c :: digits, rest)
    else some ([], c :: rest)

/-- At least one digit, with single underscores between digits. -/
def readDigits (isDigit : Char → Bool) : List Char → Option (List Char × List Char)
  | [] => none
  | c :: rest =>
    if isDigit c then (readRun isDigit rest).map fun (digits, rest) => (c :: digits, rest)
    else none

/-- The sign at the front of a text, and the text after it. -/
def readSign : List Char → Bool × List Char
  | '+' :: rest => (false, rest)
  | '-' :: rest => (true, rest)
  | text => (false, text)

/-- The digits of a decimal number before any point: a zero, or digits that start with none. -/
def readWhole : List Char → Option (List Char × List Char)
  | '0' :: rest => some (['0'], rest)
  | text => readDigits Char.isDigit text

/-- A point with digits after it, if there is one. -/
def readFraction : List Char → Option (List Char × List Char)
  | '.' :: rest => readDigits Char.isDigit rest
  | text => some ([], text)

/-- An exponent, if there is one. -/
def readExponent : List Char → Option (Option Int × List Char)
  | [] => some (none, [])
  | c :: rest =>
    if c = 'e' ∨ c = 'E' then do
      let (negative, rest) := readSign rest
      let (digits, rest) ← readDigits Char.isDigit rest
      let n : Int := Numeral.value digits
      some (some (if negative then -n else n), rest)
    else some (none, c :: rest)

/-- A whole number that fits. -/
def fitting (n : Int) : Option Datum :=
  if FitsInt64 n then some (.integer n) else none

/-- A number that is not whole. Below all numbers there is something, above them nothing. -/
def real (negative : Bool) (d : Number.Decimal) : Option Datum :=
  match d.nearest?, negative with
  | some magnitude, _ => some (.real (.finite negative magnitude))
  | none, true => some (.real (.infinite true))
  | none, false => none

/-- Reads a number to the base ten. -/
def readDecimal (text : List Char) : Option (Datum × List Char) := do
  let (negative, rest) := readSign text
  let (whole, rest) ← readWhole rest
  let (fraction, rest) ← readFraction rest
  let (exponent, rest) ← readExponent rest
  let digits := Numeral.value (whole ++ fraction)
  if fraction.isEmpty ∧ exponent.isNone then
    let n ← fitting (if negative then -(digits : Int) else digits)
    some (n, rest)
  else
    let n ← real negative ⟨digits, exponent.getD 0 - fraction.length⟩
    some (n, rest)

/-- Reads a whole number to a base, from after its mark. -/
def readBased (base : Nat) (text : List Char) : Option (Datum × List Char) := do
  let isDigit (c : Char) : Bool := ((Numeral.hexDigit? c).map fun d => decide (d < base)).getD false
  let (digits, rest) ← readDigits isDigit text
  let value := digits.foldl (fun n c => n * base + (Numeral.hexDigit? c).getD 0) 0
  let n ← fitting value
  some (n, rest)

/-- Reads `inf` or `nan`, after a sign if there is one. -/
def readSpecial (text : List Char) : Option (Datum × List Char) :=
  let (negative, rest) := readSign text
  match rest with
  | 'i' :: 'n' :: 'f' :: rest => some (.real (.infinite negative), rest)
  | 'n' :: 'a' :: 'n' :: rest => some (.real .undefined, rest)
  | _ => none

/-- Reads a number. -/
def readNumber (text : List Char) : Option (Datum × List Char) :=
  match text with
  | '0' :: 'x' :: rest => readBased 16 rest
  | '0' :: 'o' :: rest => readBased 8 rest
  | '0' :: 'b' :: rest => readBased 2 rest
  | _ => readSpecial text <|> readDecimal text

/-! ## Moments -/

/-- A number of exactly `width` digits, with its text, that is at most `most`. -/
def readFixed (width most : Nat) (text : List Char) : Option (List Char × List Char) :=
  let digits := text.take width
  if digits.length = width ∧ digits.all Char.isDigit ∧ Numeral.value digits ≤ most then
    some (digits, text.drop width)
  else none

/-- Reads a date. -/
def readDate (text : List Char) : Option (List Char × List Char) := do
  let (year, rest) ← readFixed 4 9999 text
  let rest ← expect '-' rest
  let (month, rest) ← readFixed 2 12 rest
  let rest ← expect '-' rest
  let (day, rest) ← readFixed 2 31 rest
  let date : Date := ⟨Numeral.value year, Numeral.value month, Numeral.value day⟩
  if date.isValid then some (year ++ '-' :: month ++ '-' :: day, rest) else none

/-- The fraction of a second without zeros at its end; digits after the ninth do not count. -/
def fractionText (digits : List Char) : List Char :=
  let kept := ((digits.take 9).reverse.dropWhile fun c => c == '0').reverse
  if kept.isEmpty then [] else '.' :: kept

/-- The fraction of a second, if there is one. -/
def readSecondFraction : List Char → Option (List Char × List Char)
  | '.' :: rest =>
    match Numeral.leading rest with
    | [] => none
    | digits => some (fractionText digits, Numeral.trailing rest)
  | text => some ([], text)

/-- Reads a time of day. -/
def readTime (text : List Char) : Option (List Char × List Char) := do
  let (hour, rest) ← readFixed 2 23 text
  let rest ← expect ':' rest
  let (minute, rest) ← readFixed 2 59 rest
  let rest ← expect ':' rest
  let (second, rest) ← readFixed 2 60 rest
  let (fraction, rest) ← readSecondFraction rest
  some (hour ++ ':' :: minute ++ ':' :: second ++ fraction, rest)

/-- A time zone, if there is one. -/
def readOffset (text : List Char) : Option (List Char × List Char) :=
  match text with
  | 'Z' :: rest | 'z' :: rest => some (['Z'], rest)
  | c :: rest =>
    if c = '+' ∨ c = '-' then do
      let (hour, rest) ← readFixed 2 23 rest
      let rest ← expect ':' rest
      let (minute, rest) ← readFixed 2 59 rest
      let none := Numeral.value (hour ++ minute) = 0
      some ((if none then '+' else c) :: hour ++ ':' :: minute, rest)
    else some ([], c :: rest)
  | [] => some ([], [])

/-- A time of day after a date, if there is one. -/
def readTimeAfterDate (text : List Char) : Option (List Char × List Char) :=
  match text with
  | c :: rest =>
    if c = 'T' ∨ c = 't' ∨ c = ' ' then
      match readTime rest with
      | none => some ([], text)
      | some (time, rest) =>
        (readOffset rest).map fun (offset, rest) => ('T' :: time ++ offset, rest)
    else some ([], text)
  | [] => some ([], [])

/-- Reads a moment. -/
def readMoment (text : List Char) : Option (Datum × List Char) :=
  match readDate text with
  | some (date, rest) =>
    (readTimeAfterDate rest).map fun (time, rest) =>
      (.moment (String.ofList (date ++ time)), rest)
  | none => (readTime text).map fun (time, rest) => (.moment (String.ofList time), rest)

end Integrity.Toml
