import Integrity.Proofs.Text.Numeral
import Integrity.Time.Text
import Mathlib.Data.Nat.Log
import Mathlib.Tactic.Ring

/-! # Moments are read back

Every moment is read back from its text, down to the nanosecond, whatever its year. -/

namespace Integrity.Timestamp

/-! ## Digits -/

theorem length_digits (width n : Nat) : (digits width n).length = width := by
  induction width generalizing n with
  | zero => rfl
  | succ width ih => simp [digits, ih]

theorem isDigit_of_mem_digits {width n : Nat} {c : Char} (h : c ∈ digits width n) :
    c.isDigit = true := by
  induction width generalizing n with
  | zero => cases h
  | succ width ih =>
    rw [digits, List.mem_append, List.mem_singleton] at h
    rcases h with h | rfl
    · exact ih h
    · rw [Nat.isDigit_digitChar, decide_eq_true_eq]
      exact Nat.mod_lt n (by decide)

theorem value_digits (width n : Nat) : Numeral.value (digits width n) = n % 10 ^ width := by
  induction width generalizing n with
  | zero => rw [pow_zero, Nat.mod_one]; rfl
  | succ width ih =>
    have hlast : n % 10 < 10 := Nat.mod_lt n (by decide)
    unfold Numeral.value at ih ⊢
    rw [digits, Nat.ofDigitChars_append, ih, Nat.ofDigitChars_cons_digitChar_of_lt_ten hlast,
      Nat.ofDigitChars_nil, pow_succ', Nat.mod_mul]
    omega

theorem leading_append_of_isDigit {found rest : List Char} (hfound : ∀ c ∈ found, c.isDigit = true)
    (hrest : Numeral.leading rest = []) : Numeral.leading (found ++ rest) = found := by
  rw [Numeral.leading] at hrest ⊢
  rw [List.takeWhile_append_of_pos hfound, hrest, List.append_nil]

theorem leading_take_eq_nil {rest : List Char} (h : Numeral.leading rest = []) (n : Nat) :
    Numeral.leading (rest.take n) = [] := by
  cases rest with
  | nil => rw [List.take_nil]; rfl
  | cons c rest =>
    cases n with
    | zero => rfl
    | succ n =>
      by_cases hc : c.isDigit = true
      · simp [Numeral.leading, hc] at h
      · simp [Numeral.leading, hc]

theorem readNumber_append {most : Nat} {found rest : List Char} (hne : found ≠ [])
    (hfound : ∀ c ∈ found, c.isDigit = true) (hmost : found.length ≤ most)
    (hrest : Numeral.leading rest = []) :
    readNumber most (found ++ rest) = some (Numeral.value found, rest) := by
  have hleading : Numeral.leading ((found ++ rest).take most) = found := by
    rw [List.take_append, List.take_of_length_le hmost]
    exact leading_append_of_isDigit hfound (leading_take_eq_nil hrest _)
  have hsome : found.isEmpty = false := List.isEmpty_eq_false_iff.mpr hne
  rw [readNumber, hleading, hsome]
  simp only [Bool.false_eq_true, if_false, List.drop_left]

theorem readNumber_digits {width most n : Nat} {rest : List Char} (hwidth : 0 < width)
    (hmost : width ≤ most) (hn : n < 10 ^ width) (hrest : Numeral.leading rest = []) :
    readNumber most (digits width n ++ rest) = some (n, rest) := by
  have hne : digits width n ≠ [] := by
    rw [ne_eq, ← List.length_eq_zero_iff, length_digits]
    omega
  rw [readNumber_append hne (fun c hc => isDigit_of_mem_digits hc) (by rwa [length_digits]) hrest,
    value_digits, Nat.mod_eq_of_lt hn]

/-! ## Parts of a moment -/

theorem trimLeft_of_isDigit {c : Char} (h : c.isDigit = true) (rest : List Char) :
    Text.trimLeft (c :: rest) = c :: rest := by
  have hblank : Text.isBlank c = false := by
    have hrange : 48 ≤ c.toNat ∧ c.toNat ≤ 57 := Char.isDigit_iff_toNat.mp h
    simp only [Text.isBlank, Bool.or_eq_false_iff, Bool.and_eq_false_iff, beq_eq_false_iff_ne,
      decide_eq_false_iff_not]
    omega
  simp [Text.trimLeft, hblank]

theorem exists_digits_eq_cons (width n : Nat) :
    ∃ c found, digits (width + 1) n = c :: found ∧ c.isDigit = true := by
  cases h : digits (width + 1) n with
  | nil =>
    have hlength := length_digits (width + 1) n
    rw [h] at hlength
    cases hlength
  | cons c found =>
    exact ⟨c, found, rfl, isDigit_of_mem_digits (by rw [h]; exact List.mem_cons_self)⟩

theorem trimLeft_digits (width n : Nat) (rest : List Char) :
    Text.trimLeft (digits (width + 1) n ++ rest) = digits (width + 1) n ++ rest := by
  obtain ⟨c, found, hdigits, hc⟩ := exists_digits_eq_cons width n
  rw [hdigits]
  exact trimLeft_of_isDigit hc _

theorem readPair_digits {n : Nat} {rest : List Char} (hn : n < 100)
    (hrest : Numeral.leading rest = []) : readPair (digits 2 n ++ rest) = some (n, rest) := by
  rw [readPair, trimLeft_digits]
  exact readNumber_digits (by decide) (Nat.le_refl 2) hn hrest

theorem value_replicate_zero_append (count n : Nat) :
    Numeral.value (List.replicate count '0' ++ Numeral.ofNat n) = n := by
  induction count with
  | zero => exact Numeral.value_ofNat n
  | succ count ih => exact ih

/-- A year with a sign may have any number of digits. -/
theorem readNumber_padded (count n : Nat) {rest : List Char} (hrest : Numeral.leading rest = []) :
    readNumber (List.replicate count '0' ++ Numeral.ofNat n ++ rest).length
      (List.replicate count '0' ++ Numeral.ofNat n ++ rest) = some (n, rest) := by
  have hne : List.replicate count '0' ++ Numeral.ofNat n ≠ [] := by
    simp [Numeral.ofNat_ne_nil]
  have hdigits : ∀ c ∈ List.replicate count '0' ++ Numeral.ofNat n, c.isDigit = true := by
    intro c hc
    rcases List.mem_append.mp hc with hc | hc
    · rw [(List.mem_replicate.mp hc).2]
      rfl
    · exact Numeral.isDigit_of_mem_ofNat hc
  rw [readNumber_append hne hdigits (by simp only [List.length_append]; omega) hrest,
    value_replicate_zero_append]

theorem readYear_minus (rest : List Char) :
    readYear ('-' :: rest) =
      (readNumber rest.length rest).map fun (n, rest) => (-(n : Int), rest) :=
  rfl

theorem readYear_plus (rest : List Char) :
    readYear ('+' :: rest) = (readNumber rest.length rest).map fun (n, rest) => ((n : Int), rest) :=
  rfl

/-- A year of four digits needs no sign. -/
theorem readYear_digits {n : Nat} (hn : n ≤ 9999) {rest : List Char}
    (hrest : Numeral.leading rest = []) :
    readYear (digits 4 n ++ rest) = some ((n : Int), rest) := by
  obtain ⟨c, found, hdigits, hc⟩ := exists_digits_eq_cons 3 n
  have hnumber : readNumber 4 (digits 4 n ++ rest) = some (n, rest) :=
    readNumber_digits (by decide) (Nat.le_refl 4) (by omega) hrest
  rw [readYear, trimLeft_digits]
  rw [hdigits, List.cons_append] at hnumber ⊢
  split
  · next heq =>
    rw [(List.cons.inj heq).1] at hc
    cases hc
  · next heq =>
    rw [(List.cons.inj heq).1] at hc
    cases hc
  · rw [hnumber, Option.map_some]

theorem readYear_yearText (year : Int) {rest : List Char} (hrest : Numeral.leading rest = []) :
    readYear (yearText year ++ rest) = some (year, rest) := by
  rw [yearText]
  split
  · next hordinary =>
    rw [readYear_digits (by omega) hrest, Int.toNat_of_nonneg hordinary.1]
  · next hordinary =>
    have hpadded := readNumber_padded (4 - (Numeral.ofNat year.natAbs).length) year.natAbs hrest
    dsimp only
    split
    · next hnegative =>
      rw [List.cons_append, List.cons_append, readYear_minus, hpadded, Option.map_some]
      dsimp only
      rw [Int.ofNat_natAbs_of_nonpos (Int.le_of_lt hnegative), Int.neg_neg]
    · next hnegative =>
      rw [List.cons_append, List.cons_append, readYear_plus, hpadded, Option.map_some]
      dsimp only
      rw [Int.natAbs_of_nonneg (Int.not_lt.mp hnegative)]

theorem readMark_cons {mark : Char} (h : Text.isBlank mark = false) (rest : List Char) :
    readMark mark (mark :: rest) = some rest := by
  simp [readMark, Text.trimLeft, h]

theorem readFraction_digits {width n : Nat} {rest : List Char} (hwidth : 0 < width)
    (hmost : width ≤ 9) (hn : n < 10 ^ width) (hrest : Numeral.leading rest = []) :
    readFraction ('.' :: (digits width n ++ rest)) =
      some (n * 10 ^ (9 - width), Numeral.trailing rest) := by
  have hlength : (digits width n ++ rest).length - rest.length = width := by
    rw [List.length_append, length_digits, Nat.add_sub_cancel]
  rw [readFraction, readNumber_digits hwidth hmost hn hrest]
  show some (n * Nat.pow 10 (9 - ((digits width n ++ rest).length - rest.length)),
    Numeral.trailing rest) = _
  rw [hlength]
  rfl

theorem readFraction_fractionText {nanos : Nat} (h : nanos ≤ 999999999) (rest : List Char) :
    readFraction (fractionText nanos ++ 'Z' :: rest) = some (nanos, 'Z' :: rest) := by
  have hrest : Numeral.leading ('Z' :: rest) = [] := rfl
  rw [fractionText]
  split
  · next hzero => rw [hzero]; rfl
  split
  · next hmillis =>
    rw [List.cons_append, readFraction_digits (by decide) (by decide) (by omega) hrest]
    have hnanos : nanos / 1000000 * 10 ^ (9 - 3) = nanos := by omega
    rw [hnanos]
    rfl
  split
  · next hmicros =>
    rw [List.cons_append, readFraction_digits (by decide) (by decide) (by omega) hrest]
    have hnanos : nanos / 1000 * 10 ^ (9 - 6) = nanos := by omega
    rw [hnanos]
    rfl
  · rw [List.cons_append, readFraction_digits (by decide) (by decide) (by omega) hrest]
    rw [Nat.sub_self, pow_zero, Nat.mul_one]
    rfl

/-! ## Moments -/

theorem behind_zero {t : Timestamp} (hhour : t.hour ≤ 23) (hminute : t.minute ≤ 59) :
    t.behind 0 = t := by
  have hlow : ¬(t.hour * 60 + t.minute : Int) - 0 < 0 := by omega
  have hhigh : ¬1440 ≤ (t.hour * 60 + t.minute : Int) - 0 := by omega
  have hinDay : (((t.hour * 60 + t.minute : Int) - 0) % 1440).toNat = t.hour * 60 + t.minute := by
    omega
  have hhours : (t.hour * 60 + t.minute) / 60 = t.hour := by omega
  have hminutes : (t.hour * 60 + t.minute) % 60 = t.minute := by omega
  simp only [behind, hinDay, hhours, hminutes, if_neg hlow, if_neg hhigh]

theorem daysInMonth_le (year : Int) (month : Nat) : daysInMonth year month ≤ 31 := by
  unfold daysInMonth
  split
  · split <;> decide
  all_goals decide

theorem leading_fractionText (nanos : Nat) :
    Numeral.leading (fractionText nanos ++ ['Z']) = [] := by
  rw [fractionText]
  repeat' split
  all_goals rfl

theorem ofText_toText {t : Timestamp} (hvalid : t.isValid = true) :
    ofText t.toText = some t := by
  have hparts := hvalid
  simp only [isValid, Date.isValid, Bool.and_eq_true, decide_eq_true_eq] at hparts
  obtain ⟨⟨⟨⟨⟨⟨⟨-, hmonth⟩, -⟩, hday⟩, hhour⟩, hminute⟩, hsecond⟩, hnanos⟩ := hparts
  have hdays := daysInMonth_le t.date.year t.date.month
  have hshape : t.toText = yearText t.date.year ++ '-' :: (digits 2 t.date.month ++
      '-' :: (digits 2 t.date.day ++ 'T' :: (digits 2 t.hour ++ ':' :: (digits 2 t.minute ++
        ':' :: (digits 2 t.second ++ (fractionText t.nanos ++ ['Z'])))))) := by
    simp [toText]
  have hoffset : readOffset (Text.trimLeft ['Z']) = some (0, []) := rfl
  have hend : (Text.trimLeft []).isEmpty = true := rfl
  have hdash {rest : List Char} : Numeral.leading ('-' :: rest) = [] :=
    Numeral.leading_cons_eq_nil rfl
  have hletter {rest : List Char} : Numeral.leading ('T' :: rest) = [] :=
    Numeral.leading_cons_eq_nil rfl
  have hcolon {rest : List Char} : Numeral.leading (':' :: rest) = [] :=
    Numeral.leading_cons_eq_nil rfl
  rw [hshape, ofText, readYear_yearText _ hdash, Option.bind_eq_bind, Option.bind_some]
  dsimp only
  rw [readMark_cons rfl, Option.bind_eq_bind, Option.bind_some,
    readPair_digits (show t.date.month < 100 by omega) hdash, Option.bind_eq_bind,
    Option.bind_some]
  dsimp only
  rw [readMark_cons rfl, Option.bind_some,
    readPair_digits (show t.date.day < 100 by omega) hletter, Option.bind_some]
  show (readPair _).bind _ = _
  rw [readPair_digits (show t.hour < 100 by omega) hcolon, Option.bind_some]
  dsimp only
  rw [readMark_cons rfl, Option.bind_some,
    readPair_digits (show t.minute < 100 by omega) hcolon, Option.bind_some]
  dsimp only
  rw [readMark_cons rfl, Option.bind_some,
    readPair_digits (show t.second < 100 by omega) (leading_fractionText t.nanos),
    Option.bind_some]
  dsimp only
  rw [readFraction_fractionText hnanos, Option.bind_some, hoffset, Option.bind_some]
  dsimp only
  rw [behind_zero hhour hminute, hend, hvalid]
  rfl

/-- A moment of the years that have four digits. -/
def IsOrdinary (t : Timestamp) : Prop :=
  t.isValid = true ∧ 0 ≤ t.date.year ∧ t.date.year ≤ 9999

end Integrity.Timestamp
