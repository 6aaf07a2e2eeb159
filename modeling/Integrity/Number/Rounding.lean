/-!
# Rounding quotients

A quotient of natural numbers goes to the nearest natural number, and from half way to the even one.
-/

namespace Integrity.Number

/-- The natural number nearest to `num / den`, the even one of two that are equally near. -/
def roundDiv (num den : Nat) : Nat :=
  let below := num / den
  let twice := 2 * (num % den)
  if twice < den then below
  else if den < twice then below + 1
  else below + below % 2

/-- Rounding moves a quotient by half a unit at most. -/
theorem roundDiv_near {num den : Nat} (h : 0 < den) :
    2 * num ≤ (2 * roundDiv num den + 1) * den ∧ 2 * roundDiv num den * den ≤ 2 * num + den := by
  have hsum := Nat.div_add_mod num den
  have hlt := Nat.mod_lt num h
  have hcomm : den * (num / den) = num / den * den := Nat.mul_comm _ _
  have hodd : num / den % 2 = 0 ∨ num / den % 2 = 1 := by omega
  unfold roundDiv
  simp only
  split
  · constructor <;> simp only [Nat.add_mul, Nat.mul_assoc, Nat.one_mul] <;> omega
  · split
    · constructor <;> simp only [Nat.add_mul, Nat.mul_add, Nat.mul_assoc, Nat.one_mul] <;> omega
    · rcases hodd with hodd | hodd <;> rw [hodd] <;>
        constructor <;> simp only [Nat.add_mul, Nat.mul_add, Nat.mul_assoc, Nat.one_mul] <;> omega

end Integrity.Number
