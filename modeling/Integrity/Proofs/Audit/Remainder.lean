import Integrity.Audit.Selection
import Integrity.Width
import Mathlib.Algebra.Group.Nat.Defs
import Mathlib.Data.List.Induction

/-! # The remainder of a seed

Only the remainder of what has been read of a seed is kept from one byte to the next. It is the
remainder of the number that was read, and with a modulus of 64 bits no number on the way outgrows
128 bits; so words of that width give the same. -/

namespace Integrity.Audit

/-! ## In whole numbers -/

theorem foldl_residue (modulus : Nat) (bytes : List UInt8) (n : Nat) :
    bytes.foldl (fun acc byte => (acc * 256 + byte.toNat) % modulus) (n % modulus) =
      bytes.foldl (fun acc byte => acc * 256 + byte.toNat) n % modulus := by
  induction bytes generalizing n with
  | nil => rfl
  | cons byte rest ih =>
      have hstep : (n % modulus * 256 + byte.toNat) % modulus =
          (n * 256 + byte.toNat) % modulus := by
        rw [Nat.add_mod, Nat.mod_mul_mod, ← Nat.add_mod]
      rw [List.foldl_cons, List.foldl_cons, hstep, ih]

theorem residueOf_eq (modulus : Nat) (bytes : List UInt8) :
    residueOf modulus bytes = ofBigEndian bytes % modulus := by
  have h := foldl_residue modulus bytes 0
  rwa [Nat.zero_mod] at h

theorem residue_eq (seed : Digest) (modulus : Nat) :
    residue seed modulus = seed.toNat % modulus :=
  residueOf_eq modulus seed.bytes

theorem residueOf_concat (modulus : Nat) (front : List UInt8) (byte : UInt8) :
    residueOf modulus (front ++ [byte]) =
      (residueOf modulus front * 256 + byte.toNat) % modulus := by
  rw [residueOf, List.foldl_append, List.foldl_cons, List.foldl_nil, residueOf]

theorem residueOf_lt {modulus : Nat} (h : 0 < modulus) (bytes : List UInt8) :
    residueOf modulus bytes < modulus := by
  rw [residueOf_eq]
  exact Nat.mod_lt _ h

theorem residueOf_lt_toNat {modulus : UInt64} (h : modulus ≠ 0) (bytes : List UInt8) :
    residueOf modulus.toNat bytes < modulus.toNat :=
  residueOf_lt (UInt64.lt_iff_toNat_lt.mp (UInt64.pos_iff_ne_zero.mpr h)) bytes

/-- What is divided at a byte fits 128 bits. -/
theorem dividend_lt {modulus : UInt64} (h : modulus ≠ 0) (front : List UInt8) (byte : UInt8) :
    residueOf modulus.toNat front * 256 + byte.toNat < 2 ^ 128 := by
  have hresidue := residueOf_lt_toNat h front
  have hmodulus := modulus.toNat_lt
  have hbyte := byte.toNat_lt
  omega

/-! ## In words -/

/-- The remainder of a byte string in words of 128 bits, whose sums and products wrap round. -/
def wideResidue (modulus : UInt64) (bytes : List UInt8) : BitVec 128 :=
  bytes.foldl
    (fun acc byte =>
      (acc * 256 + byte.toBitVec.setWidth 128) % modulus.toBitVec.setWidth 128)
    0

/-- The remainder of a seed in words: the wide one, cut to its last 64 bits. -/
def wordResidue (seed : Digest) (modulus : UInt64) : UInt64 :=
  ⟨(wideResidue modulus seed.bytes).setWidth 64⟩

theorem wideResidue_concat (modulus : UInt64) (front : List UInt8) (byte : UInt8) :
    wideResidue modulus (front ++ [byte]) =
      (wideResidue modulus front * 256 + byte.toBitVec.setWidth 128) %
        modulus.toBitVec.setWidth 128 := by
  rw [wideResidue, List.foldl_append, List.foldl_cons, List.foldl_nil, wideResidue]

/-- No word of 128 bits wraps round on the way. -/
theorem toNat_wideResidue {modulus : UInt64} (h : modulus ≠ 0) (bytes : List UInt8) :
    (wideResidue modulus bytes).toNat = residueOf modulus.toNat bytes := by
  induction bytes using List.reverseRecOn with
  | nil => rfl
  | append_singleton front byte ih =>
      have hsum := dividend_lt h front byte
      have hproduct := Nat.lt_of_le_of_lt (Nat.le_add_right _ _) hsum
      have hbase : (256 : BitVec 128).toNat = 256 := rfl
      rw [wideResidue_concat, residueOf_concat, BitVec.toNat_umod, BitVec.toNat_add,
        BitVec.toNat_mul, ih, hbase, BitVec.toNat_setWidth_of_le (by decide),
        BitVec.toNat_setWidth_of_le (by decide), UInt8.toNat_toBitVec, UInt64.toNat_toBitVec,
        Nat.mod_eq_of_lt hproduct, Nat.mod_eq_of_lt hsum]

/-- The last cut loses nothing. -/
theorem toNat_wordResidue (seed : Digest) {modulus : UInt64} (h : modulus ≠ 0) :
    (wordResidue seed modulus).toNat = residue seed modulus.toNat := by
  have hfits := Nat.lt_trans (residueOf_lt_toNat h seed.bytes) modulus.toNat_lt
  rw [wordResidue, ← UInt64.toNat_toBitVec, BitVec.toNat_setWidth, toNat_wideResidue h,
    Nat.mod_eq_of_lt hfits, residue]

/-- The remainder of a seed by any modulus of 64 bits. It is the remainder of the number that the
seed denotes. What is kept after each of its first bytes is below the modulus, and is the remainder
of the number that they denote; what is divided at a byte fits 128 bits, and the last remainder fits
64. So working in words of these widths, that wrap round, comes to the same. -/
theorem residue_exact (seed : Digest) {modulus : UInt64} (h : modulus ≠ 0) :
    residue seed modulus.toNat = seed.toNat % modulus.toNat ∧
      (∀ front, front <+: seed.bytes →
        residueOf modulus.toNat front = ofBigEndian front % modulus.toNat ∧
          residueOf modulus.toNat front < modulus.toNat) ∧
      (∀ front byte, front ++ [byte] <+: seed.bytes →
        residueOf modulus.toNat front * 256 + byte.toNat < 2 ^ 128) ∧
      residue seed modulus.toNat < 2 ^ 64 ∧
      (∀ front, front <+: seed.bytes →
        (wideResidue modulus front).toNat = residueOf modulus.toNat front) ∧
      (wordResidue seed modulus).toNat = seed.toNat % modulus.toNat := by
  refine ⟨residue_eq seed _, ?_, ?_, ?_, ?_, ?_⟩
  · intro front _
    exact ⟨residueOf_eq _ front, residueOf_lt_toNat h front⟩
  · intro front byte _
    exact dividend_lt h front byte
  · exact Nat.lt_trans (residueOf_lt_toNat h seed.bytes) modulus.toNat_lt
  · intro front _
    exact toNat_wideResidue h front
  · rw [toNat_wordResidue seed h, residue_eq]

/-- The largest seed by the largest prime of 64 bits. -/
theorem residue_exact_largest :
    let seed := Word.filled 0xFF
    let modulus : UInt64 := 18446744073709551557
    modulus ≠ 0 ∧ residue seed modulus.toNat = 12117360 ∧
      (wordResidue seed modulus).toNat = 12117360 := by
  intro seed modulus
  have hmodulus : modulus ≠ 0 := by decide
  have hremainder : seed.toNat % modulus.toNat = 12117360 := by decide +kernel
  obtain ⟨hresidue, -, -, -, -, hword⟩ := residue_exact seed hmodulus
  exact ⟨hmodulus, hresidue.trans hremainder, hword.trans hremainder⟩

/-! ## Selection -/

theorem isSelected_iff {seed : Digest} {probability : UInt16} :
    isSelected seed probability = true ↔ seed.toNat % 10000 < probability.toNat := by
  rw [isSelected, residue_eq, Bool.and_eq_true, decide_eq_true_iff, decide_eq_true_iff,
    UInt16.lt_iff_toNat_lt]
  exact ⟨fun h => h.2, fun h => ⟨Nat.zero_lt_of_lt h, h⟩⟩

end Integrity.Audit
