import Integrity.Number.Magnitude

/-!
# The fewest digits that read back

The numbers that round to a magnitude form an interval around it. Of the decimals in that interval
those with the fewest digits are taken, and of these the nearest to the magnitude.
-/

namespace Integrity.Number

/-- The number `digits * 10 ^ exponent`. -/
structure Decimal where
  digits : Nat
  exponent : Int
deriving DecidableEq, Repr

/-- The same number without zeros at the end of its digits. -/
def Decimal.reduced (d : Decimal) : Decimal :=
  if 0 < d.digits ∧ d.digits % 10 = 0 then reduced ⟨d.digits / 10, d.exponent + 1⟩ else d
termination_by d.digits
decreasing_by exact Nat.div_lt_self (by omega) (by decide)

/-- The magnitude nearest to a decimal, if there is one. Decimals far from one need no arithmetic.
-/
def Decimal.nearest? (d : Decimal) : Option Magnitude :=
  let place := d.exponent + (Nat.toDigits 10 d.digits).length
  if d.digits = 0 ∨ place < -400 then some .zero
  else if 400 < place then none
  else
    let (up, down) := Magnitude.power 10 d.exponent
    Magnitude.ofRatio? (d.digits * up) down

namespace Magnitude

/-- How far a positive quotient below one has to be multiplied by ten to reach one, looking at
most `attempts` steps ahead. -/
def tensToOne : (attempts num den : Nat) → Nat
  | 0, _, _ => 0
  | attempts + 1, num, den => if den ≤ num then 0 else tensToOne attempts (10 * num) den + 1

/-- The place before the first digit of a positive magnitude: the power of ten above it. -/
def place (x : Magnitude) : Int :=
  let (num, den) := x.ratio
  if den ≤ num then ((Nat.toDigits 10 (num / den)).length : Int)
  else 1 - (tensToOne 330 num den : Int)

/-- The multiple of `10 ^ exponent` that rounds to a positive magnitude and is the nearest to it, if
there is one. Everything is measured in quarters of the last place of the magnitude. -/
def onGrid? (x : Magnitude) (exponent : Int) : Option Nat :=
  let (up, down) := power 2 (x.exponent - 2)
  let (tenUp, tenDown) := power 10 exponent
  let unit := up * tenDown
  let step := down * tenUp
  let value := 4 * x.mantissa * unit
  let narrow := x.mantissa = hiddenBit ∧ minExponent < x.exponent
  let least := (4 * x.mantissa - if narrow then 1 else 2) * unit
  let most := (4 * x.mantissa + 2) * unit
  let reads (digits : Nat) : Bool :=
    if x.mantissa % 2 = 0 then least ≤ digits * step && digits * step ≤ most
    else least < digits * step && digits * step < most
  let below := value / step
  match reads below, reads (below + 1) with
  | false, false => none
  | true, false => some below
  | false, true => some (below + 1)
  | true, true => some (roundDiv value step)

/-- The decimal with the fewest digits, at least `count` and at most `count + more`, that reads
back. -/
def shortestFrom (x : Magnitude) : (more count : Nat) → Decimal
  | 0, count => ⟨(x.onGrid? (x.place - count)).getD 0, x.place - count⟩
  | more + 1, count =>
    match x.onGrid? (x.place - count) with
    | some digits => ⟨digits, x.place - count⟩
    | none => shortestFrom x more (count + 1)

/-- The decimal with the fewest digits that reads back. Seventeen always suffice. A magnitude just
below a power of ten may have that power for its decimal. -/
def shortest (x : Magnitude) : Decimal :=
  if x.mantissa = 0 then ⟨0, 0⟩ else (x.shortestFrom 16 1).reduced

end Magnitude

end Integrity.Number
