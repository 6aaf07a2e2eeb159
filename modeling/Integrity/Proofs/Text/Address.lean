import Integrity.Address
import Integrity.Proofs.Text.Hex

/-! # Addresses as text

An address is written as a mark and sixty-four digits in lower case, and it is read back. It is also
read without the mark and in upper case, and then two texts name one address when they differ in
nothing else. Any other text is refused on the first ground that applies: its bytes do not pair up,
one of them is no digit, or there are too few or too many. -/

namespace Integrity.Address

theorem ofText_toText (address : Address) : ofText address.toText = .ok address := by
  have hdigits : unmarked address.toText = address.digits := rfl
  rw [ofText, hdigits, digits, Hex.decode_encode]
  dsimp only
  rw [Word.ofBytes?_bytes]

theorem ofString_ofList_toText (address : Address) :
    ofString (String.ofList address.toText) = .ok address := by
  rw [ofString, String.toList_ofList, ofText_toText]

/-! ## Texts that name an address -/

/-- A text consists of these sixty-four digits, with or without the mark. -/
def IsWritten (text digits : List Char) : Prop :=
  digits.length = 64 ∧ (∀ c ∈ digits, Hex.IsDigit c) ∧ (text = digits ∨ text = '0' :: 'x' :: digits)

/-- The digits in lower case, behind the mark. -/
def lowered (digits : List Char) : List Char :=
  '0' :: 'x' :: digits.map Char.toLower

theorem eq_unmarked_or (text : List Char) :
    text = unmarked text ∨ text = '0' :: 'x' :: unmarked text := by
  unfold unmarked
  split
  · exact .inr rfl
  · exact .inl rfl

/-- A mark is no digit, and so none is taken from digits. -/
theorem unmarked_of_isDigit {text : List Char} (h : ∀ c ∈ text, Hex.IsDigit c) :
    unmarked text = text := by
  have hmark : ¬Hex.IsDigit 'x' := by decide
  unfold unmarked
  split
  · exact absurd (h 'x' (by simp)) hmark
  · rfl

theorem IsWritten.unmarked_eq {text digits : List Char} (h : IsWritten text digits) :
    unmarked text = digits := by
  obtain ⟨-, hdigits, rfl | rfl⟩ := h
  · exact unmarked_of_isDigit hdigits
  · rfl

theorem isWritten_unmarked {text : List Char} (hlength : (unmarked text).length = 64)
    (hdigits : ∀ c ∈ unmarked text, Hex.IsDigit c) : IsWritten text (unmarked text) :=
  ⟨hlength, hdigits, eq_unmarked_or text⟩

/-- Digits in pairs are as many bytes, which is the number of an address or not. -/
theorem ofText_of_isDigit {text : List Char} (hdigits : ∀ c ∈ unmarked text, Hex.IsDigit c)
    (heven : (unmarked text).length % 2 = 0) :
    if (unmarked text).length = 64 then
      ∃ address, ofText text = .ok address ∧ address.toText = lowered (unmarked text)
    else ofText text = .error (.length ((unmarked text).length / 2)) := by
  obtain ⟨bytes, hbytes, hencode⟩ := Hex.exists_decodeFrom hdigits heven 0
  have hlength : 2 * bytes.length = (unmarked text).length := by
    rw [← Hex.length_encode, hencode, List.length_map]
  have hdecode : Hex.decode (utf8 (unmarked text)) = .ok bytes := by
    rw [Hex.decode, Hex.length_utf8_of_isDigit hdigits, if_neg (by omega), hbytes]
  rw [ofText, hdecode]
  split
  · next hfull =>
      have hword : bytes.length = 32 := by omega
      refine ⟨⟨⟨bytes, hword⟩⟩, ?_, ?_⟩
      · simp only [Word.ofBytes?, dif_pos hword]
      · rw [toText, digits, hencode]
        rfl
  · next hother =>
      have hword : ¬bytes.length = 32 := by omega
      have hhalf : bytes.length = (unmarked text).length / 2 := by omega
      simp only [Word.ofBytes?, dif_neg hword]
      rw [hhalf]

/-! ## What a text is read as -/

/-- What becomes of a text. Of the grounds for refusing it the first that applies decides. -/
inductive Reading (text : List Char) : Except Error Address → Prop
  | odd (hodd : (utf8 (unmarked text)).length % 2 = 1) :
      Reading text (.error (.hex .oddLength))
  | noDigit {front rest : List UInt8} {byte : UInt8}
      (heven : (utf8 (unmarked text)).length % 2 = 0)
      (hsplit : utf8 (unmarked text) = front ++ byte :: rest)
      (hfront : ∀ b ∈ front, Hex.IsDigitByte b) (hbyte : ¬Hex.IsDigitByte byte) :
      Reading text (.error (.hex (.invalidDigit byte front.length)))
  | miscounted (heven : (utf8 (unmarked text)).length % 2 = 0)
      (hdigits : ∀ b ∈ utf8 (unmarked text), Hex.IsDigitByte b)
      (hlength : (utf8 (unmarked text)).length ≠ 64) :
      Reading text (.error (.length ((utf8 (unmarked text)).length / 2)))
  | written {address : Address} {digits : List Char} (hwritten : IsWritten text digits)
      (haddress : address.toText = lowered digits) :
      Reading text (.ok address)

theorem eq_of_toText_eq {first second : Address} (h : first.toText = second.toText) :
    first = second := by
  have hread := ofText_toText first
  rw [h, ofText_toText] at hread
  exact (Except.ok.inj hread).symm

/-- Each text of this form names an address. -/
theorem IsWritten.exists_address {text digits : List Char} (h : IsWritten text digits) :
    ∃ address, ofText text = .ok address ∧ address.toText = lowered digits := by
  obtain ⟨hlength, hdigits, -⟩ := id h
  have hunmarked := h.unmarked_eq
  subst hunmarked
  have hread := ofText_of_isDigit hdigits (by omega)
  rwa [if_pos hlength] at hread

theorem Reading.ofText_eq {text : List Char} {outcome : Except Error Address}
    (h : Reading text outcome) : ofText text = outcome := by
  cases h with
  | odd hodd => rw [ofText, Hex.decode, if_pos hodd]
  | noDigit heven hsplit hfront hbyte =>
      rw [hsplit] at heven
      rw [ofText, hsplit, Hex.decode, if_neg (by omega),
        Hex.decodeFrom_of_not_isDigitByte heven hfront hbyte, Nat.zero_add]
  | miscounted heven hdigits hlength =>
      have hchars := Hex.forall_isDigit_iff.mpr hdigits
      rw [Hex.length_utf8_of_isDigit hchars] at heven hlength ⊢
      have hread := ofText_of_isDigit hchars heven
      rwa [if_neg hlength] at hread
  | written hwritten haddress =>
      obtain ⟨found, hfound, htext⟩ := hwritten.exists_address
      rw [hfound, eq_of_toText_eq (htext.trans haddress.symm)]

theorem reading_ofText (text : List Char) : Reading text (ofText text) := by
  by_cases hodd : (utf8 (unmarked text)).length % 2 = 1
  · have hreading := Reading.odd hodd
    rwa [hreading.ofText_eq]
  have heven : (utf8 (unmarked text)).length % 2 = 0 := by omega
  by_cases hdigits : ∀ byte ∈ utf8 (unmarked text), Hex.IsDigitByte byte
  · by_cases hlength : (utf8 (unmarked text)).length = 64
    · have hchars := Hex.forall_isDigit_iff.mpr hdigits
      rw [Hex.length_utf8_of_isDigit hchars] at hlength
      have hwritten := isWritten_unmarked hlength hchars
      obtain ⟨address, hread, haddress⟩ := hwritten.exists_address
      rw [hread]
      exact .written hwritten haddress
    · have hreading := Reading.miscounted heven hdigits hlength
      rwa [hreading.ofText_eq]
  · obtain ⟨front, byte, rest, hsplit, hfront, hbyte⟩ := Hex.exists_not_isDigitByte hdigits
    have hreading := Reading.noDigit heven hsplit hfront hbyte
    rwa [hreading.ofText_eq]

theorem ofText_eq_iff {text : List Char} {outcome : Except Error Address} :
    ofText text = outcome ↔ Reading text outcome := by
  constructor
  · rintro rfl
    exact reading_ofText text
  · exact Reading.ofText_eq

theorem ofText_eq_ok {text : List Char} {address : Address} :
    ofText text = .ok address ↔
      ∃ digits, IsWritten text digits ∧ address.toText = lowered digits := by
  rw [ofText_eq_iff]
  constructor
  · rintro ⟨⟩
    next digits hwritten haddress => exact ⟨digits, hwritten, haddress⟩
  · rintro ⟨digits, hwritten, haddress⟩
    exact .written hwritten haddress

theorem ofText_digits (address : Address) : ofText address.digits = .ok address := by
  have hunmarked : unmarked address.digits = address.digits :=
    unmarked_of_isDigit fun _ => Hex.isDigit_of_mem_encode
  rw [ofText, hunmarked, digits, Hex.decode_encode]
  dsimp only
  rw [Word.ofBytes?_bytes]

/-- A text is read, or refused on the first ground that applies. It names an address exactly when it
consists of sixty-four digits in either case, with or without the mark, and then the address is
written with the mark and these digits in lower case. So an address is read back from its digits,
with or without the mark, and two texts name one address exactly when they differ in the mark and in
the case of the digits only. -/
theorem codec_exact :
    (∀ text outcome, ofString text = outcome ↔ Reading text.toList outcome) ∧
      (∀ text, (∃ address, ofString text = .ok address) ↔
        ∃ digits, IsWritten text.toList digits) ∧
      (∀ text address, ofString text = .ok address ↔
        ∃ digits, IsWritten text.toList digits ∧
          address.toString = String.ofList (lowered digits)) ∧
      (∀ address, ofString address.toString = .ok address ∧
        ofString (String.ofList address.digits) = .ok address) ∧
      ∀ first second,
        (∃ address, ofString first = .ok address ∧ ofString second = .ok address) ↔
          ∃ digits others, IsWritten first.toList digits ∧ IsWritten second.toList others ∧
            digits.map Char.toLower = others.map Char.toLower := by
  refine ⟨fun text outcome => ofText_eq_iff, ?_, ?_, ?_, ?_⟩
  · intro text
    constructor
    · rintro ⟨address, h⟩
      obtain ⟨digits, hwritten, -⟩ := ofText_eq_ok.mp h
      exact ⟨digits, hwritten⟩
    · rintro ⟨digits, hwritten⟩
      obtain ⟨address, h, -⟩ := hwritten.exists_address
      exact ⟨address, h⟩
  · intro text address
    rw [ofString, ofText_eq_ok, toString]
    simp only [String.ofList_inj]
  · intro address
    refine ⟨ofString_ofList_toText address, ?_⟩
    rw [ofString, String.toList_ofList, ofText_digits]
  · intro first second
    simp only [ofString, ofText_eq_ok]
    constructor
    · rintro ⟨address, ⟨digits, hfirst, hdigits⟩, others, hsecond, hothers⟩
      refine ⟨digits, others, hfirst, hsecond, ?_⟩
      rw [hdigits] at hothers
      exact (List.cons.inj (List.cons.inj hothers).2).2
    · rintro ⟨digits, others, hfirst, hsecond, hsame⟩
      obtain ⟨address, -, haddress⟩ := hfirst.exists_address
      refine ⟨address, ⟨digits, hfirst, haddress⟩, others, hsecond, ?_⟩
      rw [haddress, lowered, hsame, lowered]

end Integrity.Address
