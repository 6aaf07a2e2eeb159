import Integrity.Number.Shortest
import Integrity.Text.Numeral

/-!
# How magnitudes are written

Three forms of the same digits: positional throughout, positional with a point in it, and compact,
where very large and very small numbers have an exponent. Beside them a number may be given with
one place after the point.
-/

namespace Integrity.Number

namespace Decimal

/-- A decimal in positional form. -/
def positional (d : Decimal) : List Char :=
  let digits := Numeral.ofNat d.digits
  if 0 ≤ d.exponent then
    if d.digits = 0 then digits else digits ++ List.replicate d.exponent.toNat '0'
  else
    let places := (-d.exponent).toNat
    let padded := List.replicate (places + 1 - digits.length) '0' ++ digits
    let whole := padded.length - places
    padded.take whole ++ '.' :: padded.drop whole

/-- A decimal in positional form with at least one digit after a point. -/
def pointed (d : Decimal) : List Char :=
  let text := d.positional
  if text.contains '.' then text else text ++ ['.', '0']

/-- A decimal with one digit before the point, and an exponent that always has a sign. -/
def scientific (d : Decimal) : List Char :=
  let digits := Numeral.ofNat d.digits
  let exponent := d.exponent + digits.length - 1
  digits.take 1 ++ (if digits.length = 1 then [] else '.' :: digits.drop 1)
    ++ 'e' :: (if exponent < 0 then [] else ['+']) ++ Numeral.ofInt exponent

/-- A decimal in positional form when it lies between `10 ^ (-5)` and `10 ^ 16`, and with an
exponent otherwise. -/
def compact (d : Decimal) : List Char :=
  let place := d.exponent + (Numeral.ofNat d.digits).length
  if d.digits = 0 ∨ (-5 < place ∧ place ≤ 16) then d.pointed else d.scientific

end Decimal

namespace Magnitude

/-- A magnitude in positional form. -/
def text (x : Magnitude) : List Char :=
  x.shortest.positional

/-- A magnitude with one place after the point: the nearest, and the even one from half way. -/
def tenths (x : Magnitude) : List Char :=
  let (num, den) := x.ratio
  let tenths := roundDiv (10 * num) den
  Numeral.ofNat (tenths / 10) ++ '.' :: Numeral.ofNat (tenths % 10)

end Magnitude

/-- A number of double precision. -/
inductive Binary64 where
  | finite (negative : Bool) (magnitude : Magnitude)
  | infinite (negative : Bool)
  | undefined
deriving DecidableEq, Repr, Inhabited

namespace Binary64

/-- A sign in front of a text. -/
def signed (negative : Bool) (text : List Char) : List Char :=
  if negative then '-' :: text else text

/-- A number whose magnitude is written by `write`. -/
def text (write : Decimal → List Char) : Binary64 → List Char
  | finite negative magnitude => signed negative (write magnitude.shortest)
  | infinite negative => signed negative "inf".toList
  | undefined => "NaN".toList

/-- A number in positional form, always with a point. -/
def pointed : Binary64 → List Char :=
  text Decimal.pointed

/-- A number in compact form. -/
def compact : Binary64 → List Char :=
  text Decimal.compact

end Binary64

end Integrity.Number
