import Integrity.Number.Rounding

/-!
# Magnitudes of double precision

The finite numbers of double precision that are not negative: a mantissa below `2 ^ 53` times a
power of two no lower than `2 ^ (-1074)`. Every exact result goes to the nearest of them, and from
half way to the one with the even mantissa; one that is too large goes to none.
-/

namespace Integrity.Number

/-- The number `mantissa * 2 ^ exponent`. -/
structure Magnitude where
  mantissa : Nat
  exponent : Int
deriving DecidableEq, Repr

namespace Magnitude

/-- The mantissa that all but the smallest magnitudes reach. -/
def hiddenBit : Nat :=
  0x10000000000000

/-- The least power of two. -/
def minExponent : Int :=
  -1074

/-- The largest power of two. -/
def maxExponent : Int :=
  971

/-- Nothing. -/
def zero : Magnitude :=
  ⟨0, minExponent⟩

instance : Inhabited Magnitude :=
  ⟨zero⟩

/-- The power `base ^ exponent` as a quotient. -/
def power (base : Nat) (exponent : Int) : Nat × Nat :=
  (Nat.pow base exponent.toNat, Nat.pow base (-exponent).toNat)

/-- The largest power of two that a positive quotient reaches. -/
def floorLog2 (num den : Nat) : Int :=
  let guess : Int := (num.log2 : Int) - den.log2
  let (up, down) := power 2 guess
  if num * down < den * up then guess - 1 else guess

/-- The magnitude nearest to a quotient, if there is one. -/
def ofRatio? (num den : Nat) : Option Magnitude :=
  if num = 0 then some zero
  else
    let exponent := max minExponent (floorLog2 num den - 52)
    let (up, down) := power 2 exponent
    let mantissa := roundDiv (num * down) (den * up)
    let rounded : Magnitude :=
      if mantissa = 2 * hiddenBit then ⟨hiddenBit, exponent + 1⟩ else ⟨mantissa, exponent⟩
    if maxExponent < rounded.exponent then none else some rounded

/-- A magnitude as a quotient. -/
def ratio (x : Magnitude) : Nat × Nat :=
  let (up, down) := power 2 x.exponent
  (x.mantissa * up, down)

/-- The magnitude nearest to a natural number, if there is one. -/
def ofNat? (n : Nat) : Option Magnitude :=
  ofRatio? n 1

/-- The product, if it is not too large. -/
def mul? (x y : Magnitude) : Option Magnitude :=
  let (p, q) := x.ratio
  let (r, s) := y.ratio
  ofRatio? (p * r) (q * s)

/-- The quotient by a magnitude that is not zero, if it is not too large. -/
def div? (x y : Magnitude) : Option Magnitude :=
  let (p, q) := x.ratio
  let (r, s) := y.ratio
  ofRatio? (p * s) (q * r)

/-- The sixty-four bits of a magnitude in the interchange format, as a number. -/
def bits (x : Magnitude) : Nat :=
  if x.mantissa < hiddenBit then x.mantissa
  else (x.exponent - minExponent + 1).toNat * hiddenBit + (x.mantissa - hiddenBit)

end Magnitude

end Integrity.Number
