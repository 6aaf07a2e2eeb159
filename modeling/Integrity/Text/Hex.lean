import Integrity.Bytes
import Integrity.Text.Escape

/-!
# Hexadecimal text

A byte is two digits, the high half first. Digits of either case are read; digits are written in
lower case.
-/

namespace Integrity.Hex

/-- The digit of a value below sixteen. -/
def digit (n : Nat) : Char :=
  Nat.digitChar n

/-- The two digits of a byte. -/
def pair (byte : UInt8) : List Char :=
  [digit (byte.toNat / 16), digit (byte.toNat % 16)]

/-- The digits of a byte string. -/
def encode (bytes : List UInt8) : List Char :=
  bytes.flatMap pair

/-- The value of a digit, given as the byte that writes it. -/
def digitValue? (byte : UInt8) : Option Nat :=
  let n := byte.toNat
  if 48 ≤ n ∧ n ≤ 57 then some (n - 48)
  else if 97 ≤ n ∧ n ≤ 102 then some (n - 87)
  else if 65 ≤ n ∧ n ≤ 70 then some (n - 55)
  else none

/-- Why a text is not hexadecimal. -/
inductive Error where
  | oddLength
  | invalidDigit (byte : UInt8) (index : Nat)
deriving DecidableEq, Repr

/-- What is said about a text that is not hexadecimal. A byte is shown as the character of that
number. -/
def Error.message : Error → String
  | .oddLength => "Odd number of digits"
  | .invalidDigit byte index =>
    s!"Invalid character {Text.quotedChar (Char.ofNat byte.toNat)} at position {index}"

/-- The value of the digit at `index`. -/
def digitAt (byte : UInt8) (index : Nat) : Except Error Nat :=
  match digitValue? byte with
  | some value => .ok value
  | none => .error (.invalidDigit byte index)

/-- Reads pairs of digits, the first of which stands at `index`. -/
def decodeFrom (index : Nat) : List UInt8 → Except Error (List UInt8)
  | [] => .ok []
  | [_] => .error .oddLength
  | high :: low :: rest => do
    let high ← digitAt high index
    let low ← digitAt low (index + 1)
    let bytes ← decodeFrom (index + 2) rest
    return UInt8.ofNat (16 * high + low) :: bytes

/-- Reads a hexadecimal text given as bytes: first that the digits pair up, then each digit. -/
def decode (text : List UInt8) : Except Error (List UInt8) :=
  if text.length % 2 = 1 then .error .oddLength else decodeFrom 0 text

end Integrity.Hex
