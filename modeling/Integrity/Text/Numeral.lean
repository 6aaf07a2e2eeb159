/-!
# Decimal numerals

Whole numbers are written without leading zeros, and a negative number starts with `-`. A numeral
is read by taking the longest run of digits at the front of a text.
-/

namespace Integrity.Numeral

/-- The decimal digits of a natural number. -/
def ofNat (n : Nat) : List Char :=
  Nat.toDigits 10 n

/-- The decimal numeral of an integer. -/
def ofInt : Int → List Char
  | .ofNat n => ofNat n
  | .negSucc n => '-' :: ofNat (n + 1)

/-- The digits at the front of a text. -/
def leading (text : List Char) : List Char :=
  text.takeWhile Char.isDigit

/-- The text after the digits at its front. -/
def trailing (text : List Char) : List Char :=
  text.dropWhile Char.isDigit

/-- The number that a run of decimal digits denotes. -/
def value (digits : List Char) : Nat :=
  Nat.ofDigitChars 10 digits 0

/-- The value of a hexadecimal digit. -/
def hexDigit? (c : Char) : Option Nat :=
  if '0' ≤ c ∧ c ≤ '9' then some (c.toNat - 48)
  else if 'a' ≤ c ∧ c ≤ 'f' then some (c.toNat - 87)
  else if 'A' ≤ c ∧ c ≤ 'F' then some (c.toNat - 55)
  else none

theorem leading_append_trailing (text : List Char) : leading text ++ trailing text = text :=
  List.takeWhile_append_dropWhile

theorem value_ofNat (n : Nat) : value (ofNat n) = n :=
  Nat.ofDigitChars_toDigits (by decide) (by decide)

theorem isDigit_of_mem_ofNat {n : Nat} {c : Char} (h : c ∈ ofNat n) : c.isDigit :=
  Nat.isDigit_of_mem_toDigits (by decide) (by decide) h

/-- A numeral is read back whole when what follows it is no digit. -/
theorem leading_ofNat_append (n : Nat) (rest : List Char) (h : leading rest = []) :
    leading (ofNat n ++ rest) = ofNat n := by
  unfold leading at *
  rw [List.takeWhile_append_of_pos fun c hc => isDigit_of_mem_ofNat hc, h, List.append_nil]

/-- The text of a number, for messages. -/
def text (n : Int) : String :=
  String.ofList (ofInt n)

end Integrity.Numeral
