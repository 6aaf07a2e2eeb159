import Integrity.Proofs.Audit.Remainder
import Integrity.Proofs.Words
import Mathlib.Data.Int.CardIntervalMod
import Mathlib.SetTheory.Cardinal.Finite

/-! # How many seeds are selected

Numbers in order leave the remainders in turn, block after block, and the last block may be
incomplete. So a probability selects the same share of every whole block, and of the last one as
much as there is. -/

namespace Integrity.Audit

/-! ## Small remainders -/

theorem count_lt_of_le {n modulus : ℕ} (h : n ≤ modulus) (bound : ℕ) :
    Nat.count (fun k => k % modulus < bound) n = min bound n := by
  induction n with
  | zero => rw [Nat.count_zero, Nat.min_zero]
  | succ n ih =>
      rw [Nat.count_succ, ih (Nat.le_of_succ_le h), Nat.mod_eq_of_lt h]
      split <;> omega

/-- Every whole block holds each remainder once. -/
theorem count_blocks {bound modulus : ℕ} (h : bound ≤ modulus) (blocks rest : ℕ) :
    Nat.count (fun k => k % modulus < bound) (modulus * blocks + rest) =
      blocks * bound + Nat.count (fun k => k % modulus < bound) rest := by
  induction blocks with
  | zero => rw [Nat.mul_zero, Nat.zero_add, Nat.zero_mul, Nat.zero_add]
  | succ blocks ih =>
      have hsplit : modulus * (blocks + 1) + rest = modulus + (modulus * blocks + rest) := by
        rw [Nat.mul_succ]
        omega
      rw [hsplit, Nat.count_add]
      simp only [Nat.add_mod_left]
      rw [ih, count_lt_of_le le_rfl, Nat.min_eq_left h, Nat.succ_mul]
      omega

/-- Among the first numbers, the whole blocks hold every remainder below a bound, and the rest as
many as there are. -/
theorem count_lt {bound modulus : ℕ} (hpos : 0 < modulus) (h : bound ≤ modulus) (n : ℕ) :
    Nat.count (fun k => k % modulus < bound) n =
      n / modulus * bound + min bound (n % modulus) := by
  have hrest := Nat.mod_lt n hpos
  calc
    _ = Nat.count (fun k => k % modulus < bound) (modulus * (n / modulus) + n % modulus) := by
      rw [Nat.div_add_mod]
    _ = _ := by rw [count_blocks h, count_lt_of_le hrest.le]

/-! ## Selected seeds -/

/-- How many of all seeds a probability selects. -/
noncomputable def selectedSeeds (probability : UInt16) : ℕ :=
  Nat.card {seed : Digest // isSelected seed probability = true}

theorem card_seeds (p : ℕ → Prop) [DecidablePred p] :
    Nat.card {seed : Digest // p seed.toNat} = Nat.count p (2 ^ 256) := by
  have hnumbers : {seed : Digest // p seed.toNat} ≃ {k : {k : ℕ // k < 2 ^ 256} // p k} :=
    Equiv.subtypeEquiv Word.equivNumber fun _ => Iff.rfl
  rw [Nat.card_congr (hnumbers.trans (Equiv.subtypeSubtypeEquivSubtypeInter (· < 2 ^ 256) p)),
    Nat.count_eq_card_filter_range]
  apply Nat.subtype_card
  intro k
  rw [Finset.mem_filter, Finset.mem_range]

/-- Every remainder is left by as many seeds, or by one more. -/
theorem card_residue {remainder : ℕ} (h : remainder < 10000) :
    Nat.card {seed : Digest // residue seed 10000 = remainder} =
      2 ^ 256 / 10000 + if remainder < 2 ^ 256 % 10000 then 1 else 0 := by
  have hcount := Nat.count_modEq_card (2 ^ 256) (show 0 < 10000 by decide) remainder
  simp only [Nat.ModEq, Nat.mod_eq_of_lt h] at hcount
  rw [← hcount, ← card_seeds]
  simp only [residue_eq]

theorem selectedSeeds_eq_count (probability : UInt16) :
    selectedSeeds probability =
      Nat.count (fun k => k % 10000 < probability.toNat) (2 ^ 256) := by
  rw [← card_seeds, selectedSeeds]
  simp only [isSelected_iff]

theorem selectedSeeds_eq {probability : UInt16} (h : probability.toNat ≤ 10000) :
    selectedSeeds probability =
      2 ^ 256 / 10000 * probability.toNat + min probability.toNat (2 ^ 256 % 10000) := by
  rw [selectedSeeds_eq_count, count_lt (by decide) h]

/-- A higher probability selects more seeds. -/
theorem selectedSeeds_lt {low high : UInt16} (h : low < high) (hhigh : high.toNat ≤ 10000) :
    selectedSeeds low < selectedSeeds high := by
  have hlt := UInt16.lt_iff_toNat_lt.mp h
  have hblocks : 0 < 2 ^ 256 / 10000 := Nat.div_pos (by decide +kernel) (by decide)
  rw [selectedSeeds_eq (hlt.le.trans hhigh), selectedSeeds_eq hhigh]
  calc
    _ < 2 ^ 256 / 10000 * high.toNat + min low.toNat (2 ^ 256 % 10000) :=
      Nat.add_lt_add_right (Nat.mul_lt_mul_of_pos_left hlt hblocks) _
    _ ≤ _ := Nat.add_le_add_left (min_le_min_right _ hlt.le) _

theorem card_digest : Nat.card Digest = 2 ^ 256 := by
  rw [Nat.card_congr Word.equivNumber]
  have h := Nat.subtype_card (p := (· < 2 ^ 256)) (Finset.range (2 ^ 256)) fun _ => Finset.mem_range
  rwa [Finset.card_range] at h

theorem isSelected_zero (seed : Digest) : isSelected seed 0 = false :=
  rfl

theorem isSelected_certainty (seed : Digest) : isSelected seed 10000 = true :=
  isSelected_iff.mpr (Nat.mod_lt _ (by decide))

/-- Of the 2^256 seeds, a probability of so many basis points selects as many from every ten
thousand in order, and from the incomplete rest as many again, as far as it goes; for no remainder
is left by more than one seed more than another. So none is selected at zero, all are at certainty,
and every basis point in between selects more. -/
theorem selectedSeeds_exact :
    (∀ remainder, remainder < 10000 →
      Nat.card {seed : Digest // residue seed 10000 = remainder} =
        2 ^ 256 / 10000 + if remainder < 2 ^ 256 % 10000 then 1 else 0) ∧
      (∀ probability : UInt16, probability.toNat ≤ 10000 →
        selectedSeeds probability =
          2 ^ 256 / 10000 * probability.toNat + min probability.toNat (2 ^ 256 % 10000)) ∧
      (selectedSeeds 0 = 0 ∧ ∀ seed, isSelected seed 0 = false) ∧
      (selectedSeeds 10000 = 2 ^ 256 ∧ Nat.card Digest = 2 ^ 256 ∧
        ∀ seed, isSelected seed 10000 = true) ∧
      ∀ low high : UInt16, low < high → high.toNat ≤ 10000 →
        selectedSeeds low < selectedSeeds high := by
  refine ⟨fun _ => card_residue, fun _ => selectedSeeds_eq, ⟨?_, isSelected_zero⟩,
    ⟨?_, card_digest, isSelected_certainty⟩, fun _ _ => selectedSeeds_lt⟩
  · rw [selectedSeeds_eq (Nat.zero_le _), UInt16.toNat_zero, Nat.mul_zero, Nat.zero_min]
  · have hrest : 2 ^ 256 % 10000 ≤ 10000 := (Nat.mod_lt _ (by decide)).le
    have hcertainty : (10000 : UInt16).toNat = 10000 := rfl
    rw [selectedSeeds_eq le_rfl, hcertainty, min_eq_right hrest, Nat.div_add_mod']

/-- The incomplete rest holds the remainders below 9936, so the basis point after that gains a seed
less than those before it. -/
theorem selectedSeeds_exact_rest :
    (9937 : UInt16).toNat ≤ 10000 ∧ (9936 : UInt16) < 9937 ∧
      selectedSeeds 9937 =
        115062599075121103392402487803133174033794383762247028486009001228663276923267 ∧
      selectedSeeds 9936 < selectedSeeds 9937 := by
  have hbound : (9937 : UInt16).toNat ≤ 10000 := by decide
  have hlt : (9936 : UInt16) < 9937 := by decide
  obtain ⟨-, hcount, -, -, hmore⟩ := selectedSeeds_exact
  refine ⟨hbound, hlt, ?_, hmore 9936 9937 hlt hbound⟩
  rw [hcount 9937 hbound]
  decide +kernel

end Integrity.Audit
