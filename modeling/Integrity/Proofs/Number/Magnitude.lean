import Integrity.Number.Magnitude
import Mathlib.Algebra.Order.Ring.Nat
import Mathlib.Tactic.Ring

/-! # Magnitudes that are not too large

A quotient with a numerator below 2^1023 has a nearest magnitude. What a magnitude stands for is not
much more than what it is the nearest to, so the product of two that are nearest to small numbers
has a nearest magnitude as well. -/

namespace Integrity.Number.Magnitude

theorem floorLog2_le (num den : ℕ) : floorLog2 num den ≤ num.log2 := by
  dsimp only [floorLog2]
  split <;> omega

theorem le_floorLog2_one (num : ℕ) : (num.log2 : ℤ) - 1 ≤ floorLog2 num 1 := by
  have hone : Nat.log2 1 = 0 := by decide
  dsimp only [floorLog2]
  split <;> omega

/-- The magnitude of a mantissa that rounding may have carried beyond its width. -/
def carried (mantissa : ℕ) (exponent : ℤ) : Magnitude :=
  if mantissa = 2 * hiddenBit then ⟨hiddenBit, exponent + 1⟩ else ⟨mantissa, exponent⟩

theorem exponent_carried_le (mantissa : ℕ) (exponent : ℤ) :
    (carried mantissa exponent).exponent ≤ exponent + 1 := by
  rw [carried]
  split
  · exact le_rfl
  · exact (Int.lt_succ exponent).le

theorem ratio_carried_le (mantissa : ℕ) (exponent : ℤ) :
    (carried mantissa exponent).ratio.1 ≤ mantissa * 2 ^ exponent.toNat := by
  rw [carried]
  split
  · next hmantissa =>
    have hexponent : (exponent + 1).toNat ≤ exponent.toNat + 1 := by omega
    calc
      hiddenBit * 2 ^ (exponent + 1).toNat ≤ hiddenBit * 2 ^ (exponent.toNat + 1) :=
        Nat.mul_le_mul_left _ (Nat.pow_le_pow_right (by decide) hexponent)
      _ = mantissa * 2 ^ exponent.toNat := by rw [hmantissa, pow_succ]; ring
  · exact le_rfl

/-- The exponent and the mantissa that belong to a quotient. -/
theorem ofRatio?_eq {num : ℕ} (hnum : num ≠ 0) (den : ℕ) :
    ofRatio? num den =
      let exponent := max minExponent (floorLog2 num den - 52)
      let mantissa := roundDiv (num * 2 ^ (-exponent).toNat) (den * 2 ^ exponent.toNat)
      if maxExponent < (carried mantissa exponent).exponent then none
      else some (carried mantissa exponent) := by
  rw [ofRatio?, if_neg hnum]
  rfl

theorem isSome_ofRatio? {num bits : ℕ} (h : num < 2 ^ bits) (hbits : bits ≤ 1023) (den : ℕ) :
    (ofRatio? num den).isSome = true := by
  by_cases hnum : num = 0
  · rw [ofRatio?, if_pos hnum]
    rfl
  · have hlog : num.log2 < bits := (Nat.log2_lt hnum).mpr h
    have hfloor := floorLog2_le num den
    rw [ofRatio?_eq hnum]
    dsimp only
    rw [if_neg]
    · rfl
    · have hcarried := exponent_carried_le
        (roundDiv (num * 2 ^ (-max minExponent (floorLog2 num den - 52)).toNat)
          (den * 2 ^ (max minExponent (floorLog2 num den - 52)).toNat))
        (max minExponent (floorLog2 num den - 52))
      simp only [minExponent, maxExponent] at hcarried ⊢
      omega

/-- Rounding a number at an exponent adds less than a unit there. -/
theorem roundDiv_mul_le (n : ℕ) (exponent : ℤ) :
    roundDiv (n * 2 ^ (-exponent).toNat) (1 * 2 ^ exponent.toNat) * 2 ^ exponent.toNat ≤
      n * 2 ^ (-exponent).toNat + 2 ^ exponent.toNat := by
  rw [Nat.one_mul]
  generalize n * 2 ^ (-exponent).toNat = num
  have hpos : 0 < 2 ^ exponent.toNat := Nat.two_pow_pos _
  have hnear : 2 * roundDiv num (2 ^ exponent.toNat) * 2 ^ exponent.toNat ≤
      2 * num + 2 ^ exponent.toNat := (roundDiv_near hpos).2
  rw [Nat.mul_assoc] at hnear
  omega

/-- A magnitude is not much more than the number that it is nearest to. -/
theorem ratio_le_of_ofNat? {n : ℕ} {x : Magnitude} (h : ofNat? n = some x) :
    x.ratio.1 ≤ n * 2 ^ 54 := by
  by_cases hn : n = 0
  · subst hn
    cases h
    decide
  have hle := floorLog2_le n 1
  have hge := le_floorLog2_one n
  rw [ofNat?, ofRatio?_eq hn] at h
  dsimp only at h
  generalize hexponent : max minExponent (floorLog2 n 1 - 52) = exponent at h
  simp only [minExponent] at hexponent
  have hup : 2 ^ exponent.toNat ≤ n :=
    (Nat.pow_le_pow_right (by decide) (by omega)).trans (Nat.log2_self_le hn)
  have hdown : n * 2 ^ (-exponent).toNat ≤ n * 2 ^ 53 :=
    Nat.mul_le_mul_left n (Nat.pow_le_pow_right (by decide) (by omega))
  split at h
  · cases h
  · cases h
    calc
      _ ≤ _ := ratio_carried_le _ exponent
      _ ≤ n * 2 ^ (-exponent).toNat + 2 ^ exponent.toNat := roundDiv_mul_le n exponent
      _ ≤ n * 2 ^ 54 := by omega

/-- The product of magnitudes that are nearest to small numbers is not too large. -/
theorem isSome_mul? {m n k l : ℕ} {x y : Magnitude} (hx : ofNat? m = some x)
    (hy : ofNat? n = some y) (hm : m < 2 ^ k) (hn : n < 2 ^ l) (hbits : k + l + 108 ≤ 1023) :
    (x.mul? y).isSome = true := by
  have hproduct : x.ratio.1 * y.ratio.1 < 2 ^ (k + l + 108) := by
    calc
      x.ratio.1 * y.ratio.1 ≤ m * 2 ^ 54 * (n * 2 ^ 54) :=
        Nat.mul_le_mul (ratio_le_of_ofNat? hx) (ratio_le_of_ofNat? hy)
      _ = m * n * 2 ^ 108 := by ring
      _ < 2 ^ k * 2 ^ l * 2 ^ 108 :=
        Nat.mul_lt_mul_of_pos_right (Nat.mul_lt_mul'' hm hn) (Nat.two_pow_pos 108)
      _ = 2 ^ (k + l + 108) := by rw [pow_add, pow_add]
  exact isSome_ofRatio? hproduct hbits _

end Integrity.Number.Magnitude
