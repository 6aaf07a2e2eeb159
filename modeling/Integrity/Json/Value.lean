import Integrity.Datum
import Integrity.Json.Scan
import Integrity.Width

/-!
# JSON values

Reading values of any shape. The members of an object keep their order, and a key may come twice. A
number is whole when it is written so and fits 64 bits with or without a sign; any other number is
kept with double precision.
-/

namespace Integrity.Json

/-! ## Numbers -/

/-- The number that digits continue from `start`, as long as it fits 64 bits, and the digits that
are left. -/
def fittingDigits (start : Nat) : List Char → Nat × List Char
  | [] => (start, [])
  | c :: rest =>
    let next := 10 * start + (c.toNat - 48)
    if next ≤ maxWord64 then fittingDigits next rest else (start, c :: rest)

/-- The largest exponent that is told apart from larger ones. -/
def exponentLimit : Nat :=
  0x7FFFFFFF

/-- The number `significand * 10 ^ exponent`, worked out in at most `attempts` divisions and one
more operation; nothing when it is too large. -/
def scale? (attempts : Nat) (significand : Number.Magnitude) (exponent : Int) :
    Option Number.Magnitude :=
  match attempts with
  | 0 => some .zero
  | attempts + 1 =>
    if exponent.natAbs ≤ 308 then do
      let power ← Number.Magnitude.ofNat? (Nat.pow 10 exponent.natAbs)
      if 0 ≤ exponent then significand.mul? power else significand.div? power
    else if significand.mantissa = 0 then some .zero
    else if 0 ≤ exponent then none
    else do
      let power ← Number.Magnitude.ofNat? (Nat.pow 10 308)
      scale? attempts (← significand.div? power) (exponent + 308)

namespace NumberText

/-- A number with double precision; nothing when it is too large. The digits that fit 64 bits
count, and the others only move the point. -/
def magnitude? (n : NumberText) : Option Number.Magnitude := do
  let (significand, dropped) := fittingDigits 0 n.whole
  let (significand, ignored) := fittingDigits significand n.fraction
  let point : Int := dropped.length - (n.fraction.length - ignored.length : Nat)
  let start ← Number.Magnitude.ofNat? significand
  match n.exponent with
  | none => scale? 4 start point
  | some (negative, digits) =>
    let exponent := Numeral.value digits
    if exponentLimit < exponent then
      if significand ≠ 0 ∧ !negative then none else some .zero
    else scale? 4 start (if negative then point - exponent else point + exponent)

/-- The value of a number; nothing when it is too large. -/
def value? (n : NumberText) : Option Datum :=
  let whole := Numeral.value n.whole
  if n.fraction.isEmpty && n.exponent.isNone && !n.negative && whole ≤ maxWord64 then
    some (.integer whole)
  else if n.fraction.isEmpty && n.exponent.isNone && n.negative && 0 < whole
      && minInt64 ≤ -(whole : Int) then
    some (.integer (-whole))
  else n.magnitude?.map fun magnitude => .real (.finite n.negative magnitude)

end NumberText

/-- Reads a number as a value. -/
def readNumberValue (text : List Char) : Except ReadError (Datum × List Char) := do
  let (number, rest) ← readNumber .truncated text
  match number.value? with
  | some value => return (value, rest)
  | none => throw .malformed

/-! ## Values -/

mutual

/-- Reads a value in which arrays and objects are nested at most `levels` deep. Each step uses up
some `fuel`. -/
def readValue (levels : Nat) : (fuel : Nat) → (text : List Char) →
    Except ReadError (Datum × List Char)
  | 0, _ => .error .malformed
  | fuel + 1, text =>
    match skipBlanks text with
    | [] => .error .truncated
    | c :: rest =>
      if c = 'n' then (readWord "ull".toList rest).map fun rest => (.null, rest)
      else if c = 't' then (readWord "rue".toList rest).map fun rest => (.boolean true, rest)
      else if c = 'f' then (readWord "alse".toList rest).map fun rest => (.boolean false, rest)
      else if c = '"' then
        (readString true .plain rest).map fun (chars, rest) => (.string (String.ofList chars), rest)
      else if c = '[' then
        match levels with
        | 0 => .error .malformed
        | levels + 1 =>
          (readElements levels fuel true rest).map fun (elements, rest) =>
            (.sequence elements, rest)
      else if c = '{' then
        match levels with
        | 0 => .error .malformed
        | levels + 1 =>
          (readMembers levels fuel true rest).map fun (members, rest) => (.mapping members, rest)
      else if startsNumber c then readNumberValue (c :: rest)
      else .error .malformed

/-- Reads the elements of an array, up to its end. -/
def readElements (levels : Nat) : (fuel : Nat) → (first : Bool) → (text : List Char) →
    Except ReadError (List Datum × List Char)
  | 0, _, _ => .error .malformed
  | fuel + 1, first, text =>
    match nextElement first text with
    | .error error => .error error
    | .ok (.done rest) => .ok ([], rest)
    | .ok (.more text) => do
      let (element, text) ← readValue levels fuel text
      let (elements, rest) ← readElements levels fuel false text
      return (element :: elements, rest)

/-- Reads the members of an object, up to its end. -/
def readMembers (levels : Nat) : (fuel : Nat) → (first : Bool) → (text : List Char) →
    Except ReadError (List (String × Datum) × List Char)
  | 0, _, _ => .error .malformed
  | fuel + 1, first, text =>
    match nextKey first text with
    | .error error => .error error
    | .ok (.done rest) => .ok ([], rest)
    | .ok (.more text) => do
      let (key, text) ← readString true .plain text
      let text ← readColon text
      let (value, text) ← readValue levels fuel text
      let (members, rest) ← readMembers levels fuel false text
      return ((String.ofList key, value) :: members, rest)

end

/-- How deep arrays and objects may be nested. -/
def nestingLimit : Nat :=
  127

/-- Enough fuel to read a text: no character needs more than two steps. -/
def fuelFor (text : List Char) : Nat :=
  2 * text.length + 2

/-- Reads a text that holds one value. -/
def ofText (text : List Char) : Except ReadError Datum := do
  let (value, rest) ← readValue nestingLimit (fuelFor text) text
  endText rest
  return value

/-! ## Skipping -/

mutual

/-- The text after a value that is not wanted. -/
def skipValue : (fuel : Nat) → (text : List Char) → Except ReadError (List Char)
  | 0, _ => .error .malformed
  | fuel + 1, text =>
    match skipBlanks text with
    | [] => .error .truncated
    | c :: rest =>
      if c = 'n' then readWord "ull".toList rest
      else if c = 't' then readWord "rue".toList rest
      else if c = 'f' then readWord "alse".toList rest
      else if c = '"' then (readString false .plain rest).map Prod.snd
      else if c = '[' then skipElements fuel true rest
      else if c = '{' then skipMembers fuel true rest
      else if startsNumber c then (readNumber .malformed (c :: rest)).map Prod.snd
      else .error .malformed

/-- The text after the elements of an array that are not wanted. -/
def skipElements : (fuel : Nat) → (first : Bool) → (text : List Char) →
    Except ReadError (List Char)
  | 0, _, _ => .error .malformed
  | fuel + 1, first, text =>
    match nextElement first text with
    | .error error => .error error
    | .ok (.done rest) => .ok rest
    | .ok (.more text) => do
      let text ← skipValue fuel text
      skipElements fuel false text

/-- The text after the members of an object that are not wanted. -/
def skipMembers : (fuel : Nat) → (first : Bool) → (text : List Char) →
    Except ReadError (List Char)
  | 0, _, _ => .error .malformed
  | fuel + 1, first, text =>
    match nextKey first text with
    | .error error => .error error
    | .ok (.done rest) => .ok rest
    | .ok (.more text) => do
      let (_, text) ← readString false .plain text
      let text ← readColon text
      let text ← skipValue fuel text
      skipMembers fuel false text

end

end Integrity.Json
