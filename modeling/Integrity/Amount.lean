import Integrity.Width

/-!
# Amounts

Quantities of the settlement asset in indivisible units. An amount fits 64 bits; addition and
subtraction say when the result would not.
-/

namespace Integrity

/-- A quantity of the settlement asset. -/
@[ext]
structure Amount where
  units : Nat
  units_le : units ≤ maxWord64
deriving DecidableEq

namespace Amount

/-- No units. -/
def zero : Amount :=
  ⟨0, by decide⟩

/-- The largest amount. -/
def max : Amount :=
  ⟨maxWord64, Nat.le_refl _⟩

instance : Inhabited Amount :=
  ⟨zero⟩

/-- The amount of a number of units that fits. -/
def ofNat? (units : Nat) : Option Amount :=
  if h : units ≤ maxWord64 then some ⟨units, h⟩ else none

/-- The amount of a number of units, or the largest amount. -/
def ofNat (units : Nat) : Amount :=
  ⟨min units maxWord64, Nat.min_le_right _ _⟩

/-- Whether there are no units. -/
def isZero (a : Amount) : Bool :=
  a.units == 0

/-- The sum, when it fits. -/
def add? (a b : Amount) : Option Amount :=
  ofNat? (a.units + b.units)

/-- The difference, when there is one. -/
def sub? (a b : Amount) : Option Amount :=
  if b.units ≤ a.units then some ⟨a.units - b.units, Nat.le_trans (Nat.sub_le _ _) a.units_le⟩
  else none

/-- The difference, or nothing. -/
def monus (a b : Amount) : Amount :=
  ⟨a.units - b.units, Nat.le_trans (Nat.sub_le _ _) a.units_le⟩

/-- The sum, or the largest amount. -/
def saturatingAdd (a b : Amount) : Amount :=
  (a.add? b).getD max

theorem add?_eq_some {a b c : Amount} : a.add? b = some c ↔ c.units = a.units + b.units := by
  simp only [add?, ofNat?]
  split
  · rw [Option.some_inj, Amount.ext_iff]
    exact eq_comm
  · have := c.units_le
    simp only [reduceCtorEq, false_iff]
    omega

theorem sub?_eq_none {a b : Amount} : a.sub? b = none ↔ a.units < b.units := by
  simp only [sub?]
  split <;> simp <;> omega

theorem add?_eq_none {a b : Amount} : a.add? b = none ↔ maxWord64 < a.units + b.units := by
  simp only [add?, ofNat?]
  split <;> simp <;> omega

theorem sub?_eq_some_monus {a b : Amount} (h : b.units ≤ a.units) :
    a.sub? b = some (a.monus b) := by
  rw [sub?, if_pos h, monus]

theorem add?_eq_some_saturatingAdd {a b : Amount} (h : a.units + b.units ≤ maxWord64) :
    a.add? b = some (a.saturatingAdd b) := by
  rw [saturatingAdd, add?, ofNat?, dif_pos h, Option.getD_some]

theorem units_monus (a b : Amount) : (a.monus b).units = a.units - b.units :=
  rfl

theorem units_saturatingAdd (a b : Amount) :
    (a.saturatingAdd b).units = min (a.units + b.units) maxWord64 := by
  simp only [saturatingAdd, add?, ofNat?]
  split
  · simp only [Option.getD_some]
    omega
  · simp only [Option.getD_none, max]
    omega

instance : ToString Amount :=
  ⟨fun a => s!"{a.units} units"⟩

end Amount

end Integrity
