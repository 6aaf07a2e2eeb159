import Integrity.Proofs.Json.Recovery
import Integrity.Proofs.Number.Magnitude
import Mathlib.Data.List.Forall2
import Mathlib.Data.Nat.Digits.Lemmas

/-! # Values that are kept

A written string, truth value or number is also read back where any value may stand, and so is an
object of them. A number that fits no word of 64 bits is kept with double precision; one of 128 bits
is never too large for that. -/

namespace Integrity.Json

/-! ## Numbers of 128 bits -/

theorem fittingDigits_le {start : ℕ} (h : start ≤ maxWord64) (digits : List Char) :
    (fittingDigits start digits).1 ≤ maxWord64 := by
  induction digits generalizing start with
  | nil => exact h
  | cons c rest ih =>
    rw [fittingDigits]
    split
    · next hnext => exact ih hnext
    · exact h

theorem length_fittingDigits_le (start : ℕ) (digits : List Char) :
    (fittingDigits start digits).2.length ≤ digits.length := by
  induction digits generalizing start with
  | nil => exact Nat.le_refl 0
  | cons c rest ih =>
    rw [fittingDigits]
    split
    · exact Nat.le_succ_of_le (ih _)
    · exact Nat.le_refl _

/-- Thirty-nine digits are not too large for double precision. -/
theorem isSome_scale? {significand zeros attempts : ℕ} (h : significand ≤ maxWord64)
    (hzeros : zeros ≤ 39) {start : Number.Magnitude}
    (hstart : Number.Magnitude.ofNat? significand = some start) :
    (scale? (attempts + 1) start zeros).isSome = true := by
  have hpower : 10 ^ zeros < 2 ^ 130 :=
    (Nat.pow_le_pow_right (by decide) hzeros).trans_lt (by decide)
  have hsmall : significand < 2 ^ 64 := Nat.lt_of_le_of_lt h (by decide)
  obtain ⟨power, hten⟩ := Option.isSome_iff_exists.mp
    (Number.Magnitude.isSome_ofRatio? hpower (by decide) 1)
  have hproduct := Number.Magnitude.isSome_mul? hstart hten hsmall hpower (by decide)
  have hexponent : (zeros : ℤ).natAbs ≤ 308 := by omega
  rw [scale?, if_pos hexponent]
  show ((Number.Magnitude.ofNat? (10 ^ zeros)).bind _).isSome = true
  rw [Number.Magnitude.ofNat?, hten, Option.bind_some, if_pos (by omega)]
  exact hproduct

theorem isSome_magnitude? (negative : Bool) {whole : List Char} (h : whole.length ≤ 39) :
    (NumberText.magnitude? ⟨negative, whole, [], none⟩).isSome = true := by
  have hfits := fittingDigits_le (Nat.zero_le _) whole
  have hdropped := (length_fittingDigits_le 0 whole).trans h
  rw [NumberText.magnitude?]
  generalize fittingDigits 0 whole = found at hfits hdropped
  obtain ⟨significand, dropped⟩ := found
  have hbits : significand < 2 ^ 64 := Nat.lt_of_le_of_lt hfits (by decide)
  obtain ⟨start, hstart⟩ := Option.isSome_iff_exists.mp
    (Number.Magnitude.isSome_ofRatio? hbits (by decide) 1)
  show ((Number.Magnitude.ofNat? significand).bind _).isSome = true
  rw [Number.Magnitude.ofNat?, hstart, Option.bind_some]
  exact isSome_scale? hfits hdropped hstart

theorem length_ofNat_le {n : ℕ} (h : n ≤ 2 ^ 127) : (Numeral.ofNat n).length ≤ 39 :=
  (Nat.length_toDigits_le_iff (by decide) (by decide)).mpr (Nat.lt_of_le_of_lt h (by decide))

theorem exists_value? (negative : Bool) {n : ℕ} (h : n ≤ 2 ^ 127) :
    ∃ value, NumberText.value? ⟨negative, Numeral.ofNat n, [], none⟩ = some value := by
  obtain ⟨magnitude, hmagnitude⟩ := Option.isSome_iff_exists.mp
    (isSome_magnitude? negative (length_ofNat_le h))
  rw [NumberText.value?]
  dsimp only
  rw [hmagnitude]
  split
  · exact ⟨_, rfl⟩
  · split
    · exact ⟨_, rfl⟩
    · exact ⟨_, rfl⟩

theorem readNumber_negative {rest : List Char} (h : Closes rest) (short : ReadError) (n : ℕ) :
    readNumber short ('-' :: (Numeral.ofNat n ++ rest)) =
      .ok (⟨true, Numeral.ofNat n, [], none⟩, rest) := by
  show (readWhole short (Numeral.ofNat n ++ rest) >>= _) = _
  rw [readWhole_ofNat h.leading_eq_nil]
  show (readFraction short rest >>= _) = _
  rw [h.readFraction]
  show (readExponent short rest >>= _) = _
  rw [h.readExponent]
  rfl

theorem natAbs_le_of_fitsWord128 {n : ℤ} (h : Temperature.FitsWord128 n) : n.natAbs ≤ 2 ^ 127 := by
  simp only [Temperature.FitsWord128, Temperature.minWord128, Temperature.maxWord128] at h
  omega

/-- A number of 128 bits is kept as some value. -/
theorem exists_recovers_readNumberValue {n : ℤ} (h : Temperature.FitsWord128 n) :
    ∃ value, Recovers readNumberValue (Numeral.ofInt n) value := by
  cases n with
  | ofNat n =>
    have hle : n ≤ 2 ^ 127 := natAbs_le_of_fitsWord128 h
    obtain ⟨value, hvalue⟩ := exists_value? false hle
    refine ⟨value, fun rest hrest => ?_⟩
    rw [readNumberValue, Numeral.ofInt, readNumber_ofNat hrest, ok_bind]
    dsimp only
    rw [hvalue]
    rfl
  | negSucc n =>
    have hle : n + 1 ≤ 2 ^ 127 := natAbs_le_of_fitsWord128 h
    obtain ⟨value, hvalue⟩ := exists_value? true hle
    refine ⟨value, fun rest hrest => ?_⟩
    rw [readNumberValue, Numeral.ofInt, List.cons_append, readNumber_negative hrest, ok_bind]
    dsimp only
    rw [hvalue]
    rfl

/-! ## Values of any shape -/

section Values

variable (levels fuel : ℕ)

theorem recovers_readValue_text (text : String) :
    Recovers (readValue levels (fuel + 1)) (writeText text.toList) (.string text) := by
  intro rest _
  have hshape : writeText text.toList ++ rest =
      '"' :: (text.toList.flatMap escape ++ '"' :: rest) := by
    simp [writeText]
  rw [hshape]
  show (readString true .plain _).map _ = _
  rw [readString_flatMap_escape]
  show Except.ok (Datum.string (String.ofList text.toList), rest) = _
  rw [String.ofList_toList]

theorem recovers_readValue_flag (flag : Bool) :
    Recovers (readValue levels (fuel + 1)) (writeFlag flag) (.boolean flag) := by
  intro rest _
  cases flag <;> rfl

theorem readValue_of_startsNumber {c : Char} (h : startsNumber c = true) (text : List Char) :
    readValue levels (fuel + 1) (c :: text) = readNumberValue (c :: text) := by
  have hblank : isBlank c = false := by
    rw [startsNumber, Bool.or_eq_true, beq_iff_eq] at h
    rcases h with rfl | hdigit
    · rfl
    · exact isBlank_of_isDigit hdigit
  have hothers : c ≠ 'n' ∧ c ≠ 't' ∧ c ≠ 'f' ∧ c ≠ '"' ∧ c ≠ '[' ∧ c ≠ '{' := by
    refine ⟨?_, ?_, ?_, ?_, ?_, ?_⟩ <;> rintro rfl <;> cases h
  simp only [readValue, skipBlanks_cons hblank, hothers, if_false, h, if_true]

theorem exists_ofInt_eq_cons (n : ℤ) :
    ∃ c digits, Numeral.ofInt n = c :: digits ∧ startsNumber c = true := by
  cases n with
  | ofNat n =>
    obtain ⟨c, digits, hshape, hdigit⟩ := Numeral.exists_ofNat_eq_cons n
    exact ⟨c, digits, hshape, by simp [startsNumber, hdigit]⟩
  | negSucc n => exact ⟨'-', Numeral.ofNat (n + 1), rfl, rfl⟩

/-- A number is kept as it is read alone. -/
theorem recovers_readValue_number {n : ℤ} {value : Datum}
    (h : Recovers readNumberValue (Numeral.ofInt n) value) :
    Recovers (readValue levels (fuel + 1)) (Numeral.ofInt n) value := by
  intro rest hrest
  obtain ⟨c, digits, hshape, hstart⟩ := exists_ofInt_eq_cons n
  have hread := h rest hrest
  rw [hshape, List.cons_append] at hread ⊢
  rw [readValue_of_startsNumber levels fuel hstart, hread]

/-! ## Objects -/

/-- A member whose value is kept, whatever stands behind it. -/
def IsKept (member : String × List Char) (entry : String × Datum) : Prop :=
  member.1 = entry.1 ∧ ∀ fuel, Recovers (readValue levels (fuel + 1)) member.2 entry.2

variable {levels fuel}

theorem readValue_brace (text : List Char) :
    readValue (levels + 1) (fuel + 1) ('{' :: text) =
      (readMembers levels fuel true text).map fun (members, rest) => (.mapping members, rest) := by
  rw [readValue]
  rfl

theorem readMembers_key {first : Bool} {key : String} {value text tail : List Char} {datum : Datum}
    (hkey : nextKey first text =
      .ok (.more (key.toList.flatMap escape ++ '"' :: (':' :: value ++ tail))))
    (hvalue : Recovers (readValue levels (fuel + 1)) value datum) (htail : Closes tail) :
    readMembers levels (fuel + 2) first text =
      (readMembers levels (fuel + 1) false tail).map fun (members, rest) =>
        ((key, datum) :: members, rest) := by
  rw [readMembers, hkey]
  show (readString true .plain _ >>= _) = _
  rw [readString_flatMap_escape]
  show (readValue levels (fuel + 1) (value ++ tail) >>= _) = _
  rw [hvalue tail htail]
  show (readMembers levels (fuel + 1) false tail >>= _) = _
  rw [String.ofList_toList]
  cases readMembers levels (fuel + 1) false tail <;> rfl

theorem readMembers_further {members : List (String × List Char)}
    {entries : List (String × Datum)} (h : List.Forall₂ (IsKept levels) members entries)
    (hfuel : members.length < fuel) (rest : List Char) :
    readMembers levels fuel false (writeFurther members ++ '}' :: rest) = .ok (entries, rest) := by
  induction h generalizing fuel with
  | nil =>
    obtain ⟨fuel, rfl⟩ := Nat.exists_eq_add_of_lt hfuel
    rw [List.length_nil, Nat.zero_add, readMembers]
    rfl
  | @cons member entry members entries hmember _ ih =>
    obtain ⟨key, value⟩ := member
    obtain ⟨rfl, hvalue⟩ := hmember
    rw [List.length_cons] at hfuel
    obtain ⟨fuel, rfl⟩ : ∃ k, fuel = k + 2 := ⟨fuel - 2, by omega⟩
    rw [readMembers_key (nextKey_writeFurther entry.1 value members rest) (hvalue fuel)
      (closes_writeFurther members rest), ih (by omega)]
    rfl

/-- An object is kept when the values of its members are. -/
theorem recovers_readValue_object {members : List (String × List Char)}
    {entries : List (String × Datum)} (h : List.Forall₂ (IsKept levels) members entries)
    (hfuel : members.length + 1 < fuel) :
    Recovers (readValue (levels + 1) fuel) (writeObject members) (.mapping entries) := by
  obtain ⟨fuel, rfl⟩ : ∃ k, fuel = k + 1 := ⟨fuel - 1, by omega⟩
  intro rest _
  cases h with
  | nil =>
    obtain ⟨fuel, rfl⟩ : ∃ k, fuel = k + 1 := ⟨fuel - 1, by omega⟩
    show readValue (levels + 1) (fuel + 2) ('{' :: '}' :: rest) = _
    rw [readValue_brace, readMembers]
    rfl
  | @cons member entry members entries hmember hmembers =>
    obtain ⟨key, value⟩ := member
    obtain ⟨rfl, hvalue⟩ := hmember
    rw [List.length_cons] at hfuel
    obtain ⟨fuel, rfl⟩ : ∃ k, fuel = k + 2 := ⟨fuel - 2, by omega⟩
    rw [writeObject_cons_append, readValue_brace,
      readMembers_key (nextKey_writeMember entry.1 value _) (hvalue fuel)
        (closes_writeFurther members rest), readMembers_further hmembers (by omega)]
    rfl

end Values

end Integrity.Json
