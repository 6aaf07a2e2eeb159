import Integrity.Bytes
import Mathlib.Algebra.Group.Nat.Defs
import Mathlib.Data.List.Induction
import Mathlib.Logic.Equiv.Defs

/-! # Words as numbers

The words of thirty-two bytes are the numbers below 2^256: reading and writing big-endian undo each
other. -/

namespace Integrity

theorem ofBigEndian_concat (front : List UInt8) (byte : UInt8) :
    ofBigEndian (front ++ [byte]) = ofBigEndian front * 256 + byte.toNat := by
  rw [ofBigEndian, List.foldl_append, List.foldl_cons, List.foldl_nil, ofBigEndian]

theorem ofBigEndian_lt (bytes : List UInt8) : ofBigEndian bytes < 256 ^ bytes.length := by
  induction bytes using List.reverseRecOn with
  | nil => decide
  | append_singleton front byte ih =>
      have hbyte := byte.toNat_lt
      rw [ofBigEndian_concat, List.length_append, List.length_singleton, pow_succ]
      omega

theorem ofBigEndian_bigEndian (width n : ℕ) :
    ofBigEndian (bigEndian width n) = n % 256 ^ width := by
  induction width generalizing n with
  | zero => exact (Nat.mod_one n).symm
  | succ width ih =>
      have hbyte : n % 256 < UInt8.size := Nat.mod_lt n (by decide)
      rw [bigEndian, ofBigEndian_concat, ih, UInt8.toNat_ofNat_of_lt' hbyte, pow_succ', Nat.mod_mul,
        Nat.mul_comm, Nat.add_comm]

namespace Word

theorem pow_bytes : 256 ^ 32 = 2 ^ 256 := by
  rw [← Nat.pow_mul 2 8 32]

theorem toNat_lt (word : Word) : word.toNat < 2 ^ 256 := by
  have h := ofBigEndian_lt word.bytes
  rwa [word.length_bytes, pow_bytes] at h

theorem toNat_ofNat {n : ℕ} (h : n < 2 ^ 256) : (ofNat n).toNat = n := by
  rw [toNat, ofNat, ofBigEndian_bigEndian, pow_bytes, Nat.mod_eq_of_lt h]

theorem ofNat_toNat (word : Word) : ofNat word.toNat = word :=
  eq_of_toNat_eq (toNat_ofNat word.toNat_lt)

/-- A word and the number that it denotes. -/
def equivNumber : Word ≃ {n : ℕ // n < 2 ^ 256} where
  toFun word := ⟨word.toNat, word.toNat_lt⟩
  invFun number := ofNat number.val
  left_inv := ofNat_toNat
  right_inv number := by
    apply Subtype.ext
    dsimp only
    exact toNat_ofNat number.property

end Word

end Integrity
