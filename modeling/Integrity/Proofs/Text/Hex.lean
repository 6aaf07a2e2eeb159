import Integrity.Text.Hex
import Mathlib.Data.List.Induction

/-! # Hexadecimal text

Hexadecimal text tells bytes apart and is read back. Digits are read in either case. A byte that is
no digit stops the reading, and the first one is told; a character that takes several bytes has none
that is a digit. -/

namespace Integrity.Hex

theorem digit_injective {m n : Nat} (hm : m < 16) (hn : n < 16) (h : digit m = digit n) :
    m = n := by
  have hall : ∀ i < 16, ∀ j < 16, digit i = digit j → i = j := by decide
  exact hall m hm n hn h

theorem pair_injective : Function.Injective pair := by
  intro byte other h
  obtain ⟨hhigh, hlow⟩ := List.cons.inj h
  have hbyte := byte.toNat_lt
  have hother := other.toNat_lt
  have hfirst := digit_injective (by omega) (by omega) hhigh
  have hsecond := digit_injective (by omega) (by omega) (List.singleton_inj.mp hlow)
  apply UInt8.toNat_inj.mp
  omega

theorem encode_injective : Function.Injective encode := by
  intro bytes others h
  induction bytes generalizing others with
  | nil =>
      cases others with
      | nil => rfl
      | cons other rest => cases h
  | cons byte rest ih =>
      cases others with
      | nil => cases h
      | cons other others =>
          obtain ⟨hpair, hrest⟩ := List.append_inj h rfl
          rw [pair_injective hpair, ih hrest]

/-! ## Reading digits back -/

theorem exists_byte_digit {n : Nat} (h : n < 16) :
    ∃ byte, String.utf8EncodeChar (digit n) = [byte] ∧ digitValue? byte = some n := by
  have hall : ∀ m < 16, (String.utf8EncodeChar (digit m)).map digitValue? = [some m] := by decide
  exact List.map_eq_singleton_iff.mp (hall n h)

theorem exists_utf8_pair (byte : UInt8) :
    ∃ high low, utf8 (pair byte) = [high, low] ∧
      digitValue? high = some (byte.toNat / 16) ∧ digitValue? low = some (byte.toNat % 16) := by
  have hbyte := byte.toNat_lt
  obtain ⟨high, hhigh, hhighValue⟩ := exists_byte_digit (n := byte.toNat / 16) (by omega)
  obtain ⟨low, hlow, hlowValue⟩ := exists_byte_digit (n := byte.toNat % 16) (by omega)
  refine ⟨high, low, ?_, hhighValue, hlowValue⟩
  simp [utf8, pair, hhigh, hlow]

theorem utf8_encode_cons (byte : UInt8) (rest : List UInt8) :
    utf8 (encode (byte :: rest)) = utf8 (pair byte) ++ utf8 (encode rest) := by
  simp [utf8, encode]

theorem length_utf8_encode (bytes : List UInt8) :
    (utf8 (encode bytes)).length = 2 * bytes.length := by
  induction bytes with
  | nil => rfl
  | cons byte rest ih =>
      obtain ⟨high, low, hpair, -, -⟩ := exists_utf8_pair byte
      rw [utf8_encode_cons, hpair, List.length_append, ih, List.length_cons, List.length_cons,
        List.length_cons, List.length_nil]
      omega

theorem length_encode (bytes : List UInt8) : (encode bytes).length = 2 * bytes.length := by
  induction bytes with
  | nil => rfl
  | cons byte rest ih =>
      rw [encode, List.flatMap_cons, ← encode, List.length_append, ih, List.length_cons]
      change 2 + _ = _
      omega

theorem decodeFrom_encode (index : Nat) (bytes : List UInt8) :
    decodeFrom index (utf8 (encode bytes)) = .ok bytes := by
  induction bytes generalizing index with
  | nil => rfl
  | cons byte rest ih =>
      obtain ⟨high, low, hpair, hhigh, hlow⟩ := exists_utf8_pair byte
      have hbyte : UInt8.ofNat (16 * (byte.toNat / 16) + byte.toNat % 16) = byte := by
        rw [Nat.div_add_mod, UInt8.ofNat_toNat]
      rw [utf8_encode_cons, hpair]
      simp only [List.cons_append, List.nil_append, decodeFrom, digitAt, hhigh, hlow]
      show (decodeFrom (index + 2) (utf8 (encode rest)) >>= _) = _
      rw [ih]
      show Except.ok (UInt8.ofNat _ :: rest) = _
      rw [hbyte]

theorem decode_encode (bytes : List UInt8) : decode (utf8 (encode bytes)) = .ok bytes := by
  have heven : ¬(utf8 (encode bytes)).length % 2 = 1 := by
    rw [length_utf8_encode]
    omega
  rw [decode, if_neg heven, decodeFrom_encode]

/-! ## Digits in either case -/

/-- The digits, in either case. -/
def alphabet : List Char :=
  "0123456789abcdefABCDEF".toList

/-- Whether a character is a digit. -/
def IsDigit (c : Char) : Prop :=
  c ∈ alphabet

instance (c : Char) : Decidable (IsDigit c) :=
  inferInstanceAs (Decidable (c ∈ alphabet))

/-- Whether a byte writes a digit. -/
def IsDigitByte (byte : UInt8) : Prop :=
  byte ∈ utf8 alphabet

theorem digitValue?_eq_none {byte : UInt8} : digitValue? byte = none ↔ ¬IsDigitByte byte := by
  have hall : ∀ n < 256, digitValue? (UInt8.ofNat n) = none ↔ UInt8.ofNat n ∉ utf8 alphabet := by
    decide +kernel
  have hbyte := hall byte.toNat byte.toNat_lt
  rwa [UInt8.ofNat_toNat] at hbyte

theorem IsDigitByte.exists_value {byte : UInt8} (h : IsDigitByte byte) :
    ∃ value, digitValue? byte = some value := by
  rw [← Option.ne_none_iff_exists']
  exact fun hnone => digitValue?_eq_none.mp hnone h

/-- A digit is one byte, whose value is written as the digit in lower case. -/
theorem IsDigit.exists_value {c : Char} (h : IsDigit c) :
    ∃ byte value, String.utf8EncodeChar c = [byte] ∧ digitValue? byte = some value ∧ value < 16 ∧
      digit value = c.toLower := by
  have hall : alphabet.all fun c =>
      (String.utf8EncodeChar c).map
        (fun byte => (digitValue? byte).map fun value => (decide (value < 16), digit value)) ==
          [some (true, c.toLower)] := by
    decide +kernel
  obtain ⟨byte, hbyte, hread⟩ :=
    List.map_eq_singleton_iff.mp (beq_iff_eq.mp (List.all_eq_true.mp hall c h))
  obtain ⟨value, hvalue, hwritten⟩ := Option.map_eq_some_iff.mp hread
  obtain ⟨hlt, hdigit⟩ := Prod.mk.inj hwritten
  exact ⟨byte, value, hbyte, hvalue, of_decide_eq_true hlt, hdigit⟩

/-- A character is a digit when all of its bytes are. -/
theorem isDigit_iff {c : Char} :
    IsDigit c ↔ ∀ byte ∈ String.utf8EncodeChar c, IsDigitByte byte := by
  by_cases hone : c.toNat < 128
  · have hall : ∀ n < 128, Char.ofNat n ∈ alphabet ↔
        ∀ byte ∈ String.utf8EncodeChar (Char.ofNat n), byte ∈ utf8 alphabet := by
      decide +kernel
    have hc := hall c.toNat hone
    rwa [Char.ofNat_toNat] at hc
  · -- The first of several bytes is too large for a digit.
    have hchars : alphabet.all fun c => decide (c.toNat < 128) := by decide
    have hbytes : ∀ byte ∈ utf8 alphabet, byte.toNat < 128 := by decide +kernel
    constructor
    · exact fun h => absurd (of_decide_eq_true (List.all_eq_true.mp hchars c h)) hone
    · intro h
      obtain ⟨byte, hmem, hlarge⟩ :
          ∃ byte ∈ String.utf8EncodeChar c, 128 ≤ byte.toNat := by
        have hlarge : ¬c.val.toNat ≤ 127 := by
          change ¬c.toNat ≤ 127
          omega
        simp only [String.utf8EncodeChar, if_neg hlarge]
        split
        · exact ⟨_, List.mem_cons_self, by simp; omega⟩
        · split
          · exact ⟨_, List.mem_cons_self, by simp; omega⟩
          · exact ⟨_, List.mem_cons_self, by simp; omega⟩
      have hsmall := hbytes byte (h byte hmem)
      omega

theorem forall_isDigit_iff {text : List Char} :
    (∀ c ∈ text, IsDigit c) ↔ ∀ byte ∈ utf8 text, IsDigitByte byte := by
  simp only [utf8, List.mem_flatMap, isDigit_iff]
  constructor
  · rintro h byte ⟨c, hc, hbyte⟩
    exact h c hc byte hbyte
  · intro h c hc byte hbyte
    exact h byte ⟨c, hc, hbyte⟩

theorem length_utf8_of_isDigit {text : List Char} (h : ∀ c ∈ text, IsDigit c) :
    (utf8 text).length = text.length := by
  induction text with
  | nil => rfl
  | cons c rest ih =>
      obtain ⟨hc, hrest⟩ := List.forall_mem_cons.mp h
      obtain ⟨byte, -, hbyte, -⟩ := hc.exists_value
      have hsplit : utf8 (c :: rest) = byte :: utf8 rest := by
        rw [utf8, List.flatMap_cons, hbyte]
        rfl
      rw [hsplit, List.length_cons, ih hrest, List.length_cons]

theorem isDigit_digit {n : Nat} (h : n < 16) : IsDigit (digit n) := by
  have hall : ∀ m < 16, digit m ∈ alphabet := by decide
  exact hall n h

theorem isDigit_of_mem_encode {bytes : List UInt8} {c : Char} (h : c ∈ encode bytes) :
    IsDigit c := by
  obtain ⟨byte, -, hc⟩ := List.mem_flatMap.mp h
  have hbyte := byte.toNat_lt
  simp only [pair, List.mem_cons, List.not_mem_nil, or_false] at hc
  rcases hc with rfl | rfl
  · exact isDigit_digit (by omega)
  · exact isDigit_digit (by omega)

/-! ## What is read, and what stops the reading -/

/-- Digits in pairs are read as the bytes that they write in lower case. -/
theorem exists_decodeFrom {text : List Char} (h : ∀ c ∈ text, IsDigit c)
    (heven : text.length % 2 = 0) (index : Nat) :
    ∃ bytes, decodeFrom index (utf8 text) = .ok bytes ∧
      encode bytes = text.map Char.toLower := by
  induction text using List.twoStepInduction generalizing index with
  | nil => exact ⟨[], rfl, rfl⟩
  | singleton c => cases heven
  | cons_cons first second rest ih _ =>
      obtain ⟨hfirst, hmore⟩ := List.forall_mem_cons.mp h
      obtain ⟨hsecond, hrest⟩ := List.forall_mem_cons.mp hmore
      rw [List.length_cons, List.length_cons] at heven
      obtain ⟨bytes, hbytes, hencode⟩ := ih hrest (by omega) (index + 2)
      obtain ⟨high, highValue, hhigh, hhighValue, hhighLt, hhighDigit⟩ := hfirst.exists_value
      obtain ⟨low, lowValue, hlow, hlowValue, hlowLt, hlowDigit⟩ := hsecond.exists_value
      have hsplit : utf8 (first :: second :: rest) = high :: low :: utf8 rest := by
        rw [utf8, List.flatMap_cons, List.flatMap_cons, hhigh, hlow]
        rfl
      refine ⟨UInt8.ofNat (16 * highValue + lowValue) :: bytes, ?_, ?_⟩
      · rw [hsplit]
        simp only [decodeFrom, digitAt, hhighValue, hlowValue]
        change (decodeFrom (index + 2) (utf8 rest) >>= _) = _
        rw [hbytes]
        rfl
      · have hbyte : (UInt8.ofNat (16 * highValue + lowValue)).toNat =
            16 * highValue + lowValue :=
          UInt8.toNat_ofNat_of_lt' (show _ < 256 by omega)
        have hdiv : (16 * highValue + lowValue) / 16 = highValue := by omega
        have hmod : (16 * highValue + lowValue) % 16 = lowValue := by omega
        rw [encode, List.flatMap_cons, ← encode, hencode, pair, hbyte, hdiv, hmod, hhighDigit,
          hlowDigit]
        rfl

/-- The first byte that is no digit stops the reading. -/
theorem decodeFrom_of_not_isDigitByte {front rest : List UInt8} {byte : UInt8}
    (heven : (front ++ byte :: rest).length % 2 = 0) (hfront : ∀ b ∈ front, IsDigitByte b)
    (hbyte : ¬IsDigitByte byte) (index : Nat) :
    decodeFrom index (front ++ byte :: rest) =
      .error (.invalidDigit byte (index + front.length)) := by
  have hnone := digitValue?_eq_none.mpr hbyte
  induction front using List.twoStepInduction generalizing index with
  | nil =>
      cases rest with
      | nil => cases heven
      | cons low rest =>
          simp only [List.nil_append, decodeFrom, digitAt, hnone]
          rfl
  | singleton high =>
      obtain ⟨value, hvalue⟩ := (hfront high List.mem_cons_self).exists_value
      simp only [List.cons_append, List.nil_append, decodeFrom, digitAt, hvalue, hnone]
      rfl
  | cons_cons high low front ih _ =>
      obtain ⟨hhigh, hmore⟩ := List.forall_mem_cons.mp hfront
      obtain ⟨hlow, hrest⟩ := List.forall_mem_cons.mp hmore
      obtain ⟨highValue, hhighValue⟩ := hhigh.exists_value
      obtain ⟨lowValue, hlowValue⟩ := hlow.exists_value
      simp only [List.cons_append, List.length_cons] at heven
      have hrec := ih (by omega) hrest (index + 2)
      simp only [List.cons_append, decodeFrom, digitAt, hhighValue, hlowValue]
      change (decodeFrom (index + 2) (front ++ byte :: rest) >>= _) = _
      have hindex : index + (high :: low :: front).length = index + 2 + front.length := by
        rw [List.length_cons, List.length_cons]
        omega
      rw [hrec, hindex]
      rfl

theorem exists_not_isDigitByte {text : List UInt8} (h : ¬∀ byte ∈ text, IsDigitByte byte) :
    ∃ front byte rest, text = front ++ byte :: rest ∧ (∀ b ∈ front, IsDigitByte b) ∧
      ¬IsDigitByte byte := by
  induction text with
  | nil => exact absurd (List.forall_mem_nil _) h
  | cons first rest ih =>
      by_cases hfirst : IsDigitByte first
      · have hrest : ¬∀ byte ∈ rest, IsDigitByte byte := fun hall =>
          h (List.forall_mem_cons.mpr ⟨hfirst, hall⟩)
        obtain ⟨front, byte, behind, rfl, hfront, hbyte⟩ := ih hrest
        exact ⟨first :: front, byte, behind, rfl,
          List.forall_mem_cons.mpr ⟨hfirst, hfront⟩, hbyte⟩
      · exact ⟨[], first, rest, rfl, List.forall_mem_nil _, hfirst⟩

end Integrity.Hex
