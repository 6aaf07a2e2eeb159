import Integrity.Text.Numeral
import Mathlib.Data.List.Basic

/-! # Numerals within a text

A numeral is found again in front of any text that does not start with a digit. Only the numeral of
zero starts with a zero. -/

namespace Integrity.Numeral

theorem ofNat_ne_nil (n : Nat) : ofNat n ≠ [] :=
  Nat.toDigits_ne_nil

theorem eq_zero_of_head?_ofNat {n : Nat} (h : (ofNat n).head? = some '0') : n = 0 := by
  induction n using Nat.strongRecOn with
  | ind n ih =>
    by_cases hn : n < 10
    · rw [ofNat, Nat.toDigits_of_lt_base hn, List.head?_cons, Option.some_inj] at h
      exact Nat.digitChar_eq_zero.mp h
    · -- The first digit is the first digit of the tenth part, which is not zero.
      rw [ofNat, Nat.toDigits_of_base_le (by decide) (Nat.not_lt.mp hn),
        List.head?_append_of_ne_nil _ Nat.toDigits_ne_nil] at h
      have htenth := ih (n / 10) (by omega) h
      omega

theorem ofNat_ne_zero_cons (n : Nat) (c : Char) (digits : List Char) :
    ofNat n ≠ '0' :: c :: digits := by
  intro h
  have hn : n = 0 := eq_zero_of_head?_ofNat (by rw [h, List.head?_cons])
  subst hn
  cases h

theorem trailing_ofNat_append (n : Nat) (rest : List Char) (h : leading rest = []) :
    trailing (ofNat n ++ rest) = rest := by
  have hsplit := leading_append_trailing (ofNat n ++ rest)
  rw [leading_ofNat_append n rest h] at hsplit
  exact List.append_cancel_left hsplit

theorem leading_cons_eq_nil {c : Char} {rest : List Char} (h : c.isDigit = false) :
    leading (c :: rest) = [] := by
  simp [leading, h]

theorem exists_ofNat_eq_cons (n : Nat) :
    ∃ c digits, ofNat n = c :: digits ∧ c.isDigit = true := by
  cases h : ofNat n with
  | nil => exact absurd h (ofNat_ne_nil n)
  | cons c digits =>
    exact ⟨c, digits, rfl, isDigit_of_mem_ofNat (n := n) (by rw [h]; exact List.mem_cons_self)⟩

theorem hexDigit?_digitChar {n : Nat} (h : n < 16) : hexDigit? (Nat.digitChar n) = some n := by
  have hall : ∀ m < 16, hexDigit? (Nat.digitChar m) = some m := by decide
  exact hall n h

end Integrity.Numeral
