import Integrity.Proofs.Toml.Strings
import Integrity.Toml.Document

/-! # Values of TOML are read back

Strings, whole numbers and arrays of strings. A value is followed by the end of its line, or within
an array by a comma or a bracket. -/

namespace Integrity.Toml

/-- What comes after a value: the end of a line, a comma, or the end of an array. -/
def Closes (rest : List Char) : Prop :=
  ∃ c tail, rest = c :: tail ∧ (c = '\n' ∨ c = ',' ∨ c = ']')

/-- A value is read back from what is written for it. -/
def Recovers (levels : Nat) (written : List Char) (value : Datum) : Prop :=
  ∀ fuel rest, written.length < fuel → Closes rest →
    readValue levels fuel (written ++ rest) = some (value, rest)

variable {rest : List Char}

theorem Closes.isUnquoted (h : Closes rest) : IsUnquoted rest := by
  obtain ⟨c, tail, rfl, rfl | rfl | rfl⟩ := h <;> exact ⟨nofun, nofun⟩

/-! ## Strings -/

theorem recovers_writeText (levels : Nat) (text : List Char) :
    Recovers levels (writeText text) (.string (String.ofList text)) := by
  intro fuel rest hfuel hrest
  obtain ⟨fuel, rfl⟩ : ∃ k, fuel = k + 1 := ⟨fuel - 1, by omega⟩
  obtain ⟨quote, body, hshape, hquote, hread⟩ := readsQuoted_writeText text
  rw [hshape, List.cons_append, readValue.eq_def]
  dsimp only
  rw [if_pos hquote, hread rest hrest.isUnquoted]
  rfl

/-! ## Whole numbers -/

/-- No digit, and nothing that could continue a number. -/
def EndsNumber (rest : List Char) : Prop :=
  ∀ c ∈ rest.head?, c.isDigit = false ∧ c ∉ ['_', '.', 'e', 'E', 'x', 'o', 'b', '-', ':']

theorem Closes.endsNumber (h : Closes rest) : EndsNumber rest := by
  obtain ⟨c, tail, rfl, rfl | rfl | rfl⟩ := h <;> intro c hc <;> cases hc <;> decide

/-- Digits at the front of a text end where its number does. -/
theorem le_length_of_all_isDigit {digits : List Char} (hrest : EndsNumber rest) {width : Nat}
    (hlength : ((digits ++ rest).take width).length = width)
    (hall : ((digits ++ rest).take width).all Char.isDigit = true) : width ≤ digits.length := by
  by_contra hless
  -- Otherwise what follows the digits is taken too, and it is no digit.
  rw [List.take_append, List.take_of_length_le (by omega), List.all_append,
    Bool.and_eq_true] at hall
  rw [List.length_take, List.length_append] at hlength
  cases rest with
  | nil =>
    rw [List.length_nil] at hlength
    omega
  | cons c rest =>
    obtain ⟨k, hk⟩ : ∃ k, width - digits.length = k + 1 := ⟨width - digits.length - 1, by omega⟩
    rw [hk, List.take_succ_cons, List.all_cons, (hrest c rfl).1] at hall
    exact absurd hall.2 (by simp)

/-- After a number of a fixed width there is a digit or the end of the number, and no mark. -/
theorem expect_of_readFixed {digits : List Char} (hdigits : ∀ c ∈ digits, c.isDigit = true)
    (hrest : EndsNumber rest) {mark : Char} (hmark : mark = '-' ∨ mark = ':') {width most : Nat}
    {found after : List Char} (h : readFixed width most (digits ++ rest) = some (found, after)) :
    expect mark after = none := by
  rw [readFixed] at h
  split at h
  · next hfixed =>
    obtain ⟨hlength, hall, -⟩ := hfixed
    cases h
    have hwidth := le_length_of_all_isDigit hrest hlength hall
    rw [List.drop_append_of_le_length hwidth]
    cases hdrop : digits.drop width with
    | nil =>
      cases rest with
      | nil => rfl
      | cons c rest =>
        have hc : c ≠ mark := by
          have hnot := (hrest c rfl).2
          rintro rfl
          rcases hmark with rfl | rfl <;> exact hnot (by decide)
        exact if_neg hc
    | cons c others =>
      have hc : c.isDigit = true := hdigits c (List.mem_of_mem_drop (hdrop ▸ List.mem_cons_self))
      have hne : c ≠ mark := by
        rintro rfl
        rcases hmark with rfl | rfl <;> cases hc
      exact if_neg hne
  · cases h

theorem readMoment_digits {digits : List Char} (hdigits : ∀ c ∈ digits, c.isDigit = true)
    (hrest : EndsNumber rest) : readMoment (digits ++ rest) = none := by
  have hdate : readDate (digits ++ rest) = none := by
    rw [readDate]
    cases hread : readFixed 4 9999 (digits ++ rest) with
    | none => rfl
    | some found =>
      show (expect '-' found.2 >>= _) = none
      rw [expect_of_readFixed hdigits hrest (.inl rfl) hread]
      rfl
  have htime : readTime (digits ++ rest) = none := by
    rw [readTime]
    cases hread : readFixed 2 23 (digits ++ rest) with
    | none => rfl
    | some found =>
      show (expect ':' found.2 >>= _) = none
      rw [expect_of_readFixed hdigits hrest (.inr rfl) hread]
      rfl
  rw [readMoment, hdate, htime]
  rfl

theorem readMoment_minus (text : List Char) : readMoment ('-' :: text) = none := by
  have hfixed (width most : Nat) : readFixed (width + 1) most ('-' :: text) = none := by
    rw [readFixed, if_neg]
    rintro ⟨-, hall, -⟩
    rw [List.take_succ_cons, List.all_cons] at hall
    cases hall
  have hdate : readDate ('-' :: text) = none := by
    rw [readDate, hfixed]
    rfl
  have htime : readTime ('-' :: text) = none := by
    rw [readTime, hfixed]
    rfl
  rw [readMoment, hdate, htime]
  rfl

theorem readRun_digits {digits : List Char} (hdigits : ∀ c ∈ digits, c.isDigit = true)
    (hrest : EndsNumber rest) : readRun Char.isDigit (digits ++ rest) = some (digits, rest) := by
  induction digits with
  | nil =>
    cases rest with
    | nil => rfl
    | cons c rest =>
      obtain ⟨hdigit, hmarks⟩ := hrest c rfl
      have hunder : c ≠ '_' := by
        rintro rfl
        exact hmarks (by decide)
      rw [List.nil_append, readRun]
      · rw [hdigit]
        rfl
      · rintro rfl
        exact fun _ => hunder rfl
      · exact fun _ _ heq => absurd heq hunder
  | cons c digits ih =>
    rw [List.forall_mem_cons] at hdigits
    have hunder : c ≠ '_' := by
      rintro rfl
      cases hdigits.1
    rw [List.cons_append, readRun]
    · rw [hdigits.1, if_pos rfl, ih hdigits.2]
      rfl
    · exact fun heq => absurd heq hunder
    · exact fun _ _ heq => absurd heq hunder

theorem readWhole_ofNat (n : Nat) (hrest : EndsNumber rest) :
    readWhole (Numeral.ofNat n ++ rest) = some (Numeral.ofNat n, rest) := by
  obtain ⟨c, digits, hshape, hdigit⟩ := Numeral.exists_ofNat_eq_cons n
  have hdigits : ∀ d ∈ c :: digits, d.isDigit = true := fun d hd =>
    Numeral.isDigit_of_mem_ofNat (hshape ▸ hd)
  rw [hshape, List.cons_append]
  by_cases hzero : c = '0'
  · subst hzero
    cases digits with
    | nil => rfl
    | cons d digits => exact absurd hshape (Numeral.ofNat_ne_zero_cons n d digits)
  · rw [readWhole, readDigits, hdigit, if_pos rfl,
      readRun_digits (fun d hd => hdigits d (List.mem_cons_of_mem c hd)) hrest]
    · rfl
    · exact fun after heq => hzero (List.cons.inj heq).1

theorem readDecimal_ofNat {text : List Char} {negative : Bool} {n : Nat} (hrest : EndsNumber rest)
    (hsign : readSign text = (negative, Numeral.ofNat n ++ rest))
    (hfits : FitsInt64 (if negative then -(n : Int) else n)) :
    readDecimal text = some (.integer (if negative then -(n : Int) else n), rest) := by
  have hfraction : readFraction rest = some ([], rest) := by
    cases rest with
    | nil => rfl
    | cons c rest =>
      have hpoint : c ≠ '.' := by
        have hmarks := (hrest c rfl).2
        rintro rfl
        exact hmarks (by decide)
      rw [readFraction]
      exact fun after heq => hpoint (List.cons.inj heq).1
  have hexponent : readExponent rest = some (none, rest) := by
    cases rest with
    | nil => rfl
    | cons c rest =>
      have hmark : ¬(c = 'e' ∨ c = 'E') := by
        have hmarks := (hrest c rfl).2
        rintro (rfl | rfl) <;> exact hmarks (by decide)
      rw [readExponent, if_neg hmark]
  have hfitting : fitting (if negative then -(n : Int) else n) =
      some (.integer (if negative then -(n : Int) else n)) := if_pos hfits
  rw [readDecimal, hsign]
  show (readWhole (Numeral.ofNat n ++ rest) >>= _) = _
  rw [readWhole_ofNat n hrest]
  show (readFraction rest >>= _) = _
  rw [hfraction]
  show (readExponent rest >>= _) = _
  rw [hexponent]
  show (fitting (if negative then -(Numeral.value (Numeral.ofNat n ++ []) : Int)
    else Numeral.value (Numeral.ofNat n ++ [])) >>= _) = _
  rw [List.append_nil, Numeral.value_ofNat, hfitting]
  rfl

theorem ofNat_append_ne_based (n : Nat) (hrest : EndsNumber rest) {mark : Char}
    (hmark : mark ∈ ['x', 'o', 'b']) (after : List Char) :
    Numeral.ofNat n ++ rest ≠ '0' :: mark :: after := by
  intro heq
  obtain ⟨c, digits, hshape, hdigit⟩ := Numeral.exists_ofNat_eq_cons n
  rw [hshape, List.cons_append] at heq
  obtain ⟨rfl, htail⟩ := List.cons.inj heq
  cases digits with
  | nil =>
    have hmarks := (hrest mark (by rw [← List.nil_append rest, htail]; rfl)).2
    simp only [List.mem_cons, List.not_mem_nil, or_false] at hmark
    rcases hmark with rfl | rfl | rfl <;> exact hmarks (by decide)
  | cons d digits => exact absurd hshape (Numeral.ofNat_ne_zero_cons n d digits)

theorem readSpecial_ofNat {text : List Char} {negative : Bool} {n : Nat}
    (hsign : readSign text = (negative, Numeral.ofNat n ++ rest)) : readSpecial text = none := by
  obtain ⟨c, digits, hshape, hdigit⟩ := Numeral.exists_ofNat_eq_cons n
  rw [readSpecial, hsign, hshape]
  dsimp only
  split
  · next heq =>
    rw [(List.cons.inj heq).1] at hdigit
    cases hdigit
  · next heq =>
    rw [(List.cons.inj heq).1] at hdigit
    cases hdigit
  · rfl

theorem readNumber_ofInt {n : Int} (h : FitsInt64 n) (hrest : EndsNumber rest) :
    readNumber (Numeral.ofInt n ++ rest) = some (.integer n, rest) := by
  cases n with
  | ofNat n =>
    obtain ⟨c, digits, hshape, hdigit⟩ := Numeral.exists_ofNat_eq_cons n
    have hsign : readSign (Numeral.ofNat n ++ rest) = (false, Numeral.ofNat n ++ rest) := by
      rw [hshape, List.cons_append, readSign]
      · exact fun after heq => absurd ((List.cons.inj heq).1 ▸ hdigit) (by decide)
      · exact fun after heq => absurd ((List.cons.inj heq).1 ▸ hdigit) (by decide)
    have hdecimal := readDecimal_ofNat hrest hsign h
    rw [Numeral.ofInt, readNumber]
    · rw [readSpecial_ofNat hsign, hdecimal]
      rfl
    · exact ofNat_append_ne_based n hrest (by decide)
    · exact ofNat_append_ne_based n hrest (by decide)
    · exact ofNat_append_ne_based n hrest (by decide)
  | negSucc n =>
    have hsign : readSign ('-' :: (Numeral.ofNat (n + 1) ++ rest)) =
        (true, Numeral.ofNat (n + 1) ++ rest) := rfl
    have hdecimal := readDecimal_ofNat hrest hsign h
    show (readSpecial ('-' :: (Numeral.ofNat (n + 1) ++ rest)) <|>
      readDecimal ('-' :: (Numeral.ofNat (n + 1) ++ rest))) = _
    rw [readSpecial_ofNat hsign, hdecimal]
    rfl

theorem recovers_ofInt (levels : Nat) {n : Int} (h : FitsInt64 n) :
    Recovers levels (Numeral.ofInt n) (.integer n) := by
  intro fuel rest hfuel hrest
  obtain ⟨fuel, rfl⟩ : ∃ k, fuel = k + 1 := ⟨fuel - 1, by omega⟩
  have hends := hrest.endsNumber
  have hnumber := readNumber_ofInt h hends
  have hmoment : readMoment (Numeral.ofInt n ++ rest) = none := by
    cases n with
    | ofNat n => exact readMoment_digits (fun c hc => Numeral.isDigit_of_mem_ofNat hc) hends
    | negSucc n => exact readMoment_minus _
  obtain ⟨c, others, hshape, hfirst⟩ : ∃ c others, Numeral.ofInt n = c :: others ∧
      (c = '-' ∨ c.isDigit = true) := by
    cases n with
    | ofNat n =>
      obtain ⟨c, digits, hshape, hdigit⟩ := Numeral.exists_ofNat_eq_cons n
      exact ⟨c, digits, hshape, .inr hdigit⟩
    | negSucc n => exact ⟨'-', _, rfl, .inl rfl⟩
  have hne (d : Char) (hd : d ≠ '-' ∧ d.isDigit = false) : c ≠ d := by
    rintro rfl
    rcases hfirst with rfl | hdigit
    · exact hd.1 rfl
    · rw [hd.2] at hdigit
      cases hdigit
  have htrue : (c :: (others ++ rest)).take 4 ≠ "true".toList := fun heq =>
    hne 't' (by decide) (List.cons.inj heq).1
  have hfalse : (c :: (others ++ rest)).take 5 ≠ "false".toList := fun heq =>
    hne 'f' (by decide) (List.cons.inj heq).1
  rw [hshape, List.cons_append] at hmoment hnumber ⊢
  rw [readValue.eq_def]
  dsimp only
  rw [if_neg, if_neg (hne '[' (by decide)), if_neg (hne '\x7b' (by decide)), if_neg htrue,
    if_neg hfalse, hmoment, hnumber]
  · rfl
  · rintro (heq | heq)
    · exact hne '"' (by decide) heq
    · exact hne '\x27' (by decide) heq

/-! ## Arrays -/

theorem skipFiller_cons {c : Char} (h : c ∉ ['\n', '\r', ' ', '\t', '#']) (rest : List Char) :
    skipFiller false (c :: rest) = some (c :: rest) := by
  simp only [List.mem_cons, List.not_mem_nil, or_false, not_or] at h
  simp [skipFiller, isBlank, h]

/-- The elements of an array that are written one on a line, up to its end. -/
def elementLines (texts : List (List Char)) (rest : List Char) : List Char :=
  '\n' :: (texts.flatMap fun text => [' ', ' ', ' ', ' '] ++ writeText text ++ [',', '\n']) ++
    ']' :: rest

theorem writeText_eq_cons (text : List Char) :
    ∃ quote body, writeText text = quote :: body ∧ (quote = '"' ∨ quote = '\x27') := by
  obtain ⟨quote, body, hshape, hquote, -⟩ := readsQuoted_writeText text
  exact ⟨quote, body, hshape, hquote⟩

theorem readElements_step {levels fuel : Nat} {before text after : List Char}
    (hbefore : skipFiller false before = some (writeText text ++ after)) (hafter : Closes after)
    (hfuel : (writeText text).length < fuel) :
    readElements levels (fuel + 1) before =
      (skipFiller false after >>= fun rest =>
        match rest with
        | ']' :: rest => some ([.string (String.ofList text)], rest)
        | ',' :: rest =>
          readElements levels fuel rest >>= fun (elements, rest) =>
            some (.string (String.ofList text) :: elements, rest)
        | _ => none) := by
  obtain ⟨quote, body, hshape, hquote⟩ := writeText_eq_cons text
  have hread := recovers_writeText levels text fuel after hfuel hafter
  rw [readElements, hbefore]
  rw [hshape, List.cons_append] at hread ⊢
  rcases hquote with rfl | rfl
  · show (readValue levels fuel _ >>= _) = _
    rw [hread]
    rfl
  · show (readValue levels fuel _ >>= _) = _
    rw [hread]
    rfl

theorem skipFiller_writeText (text after : List Char) :
    skipFiller false (writeText text ++ after) = some (writeText text ++ after) := by
  obtain ⟨quote, body, hshape, hquote⟩ := writeText_eq_cons text
  rw [hshape, List.cons_append, skipFiller_cons]
  rcases hquote with rfl | rfl <;> decide

theorem readElements_elementLines (levels : Nat) {fuel : Nat} (texts : List (List Char))
    (rest : List Char) (hfuel : (elementLines texts []).length < fuel) :
    readElements levels fuel (elementLines texts rest) =
      some (texts.map fun text => .string (String.ofList text), rest) := by
  induction texts generalizing fuel with
  | nil =>
    obtain ⟨fuel, rfl⟩ : ∃ k, fuel = k + 1 := ⟨fuel - 1, by omega⟩
    rfl
  | cons text texts ih =>
    have hshape (rest : List Char) : elementLines (text :: texts) rest =
        '\n' :: ' ' :: ' ' :: ' ' :: ' ' :: (writeText text ++ ',' :: elementLines texts rest) := by
      simp [elementLines]
    rw [hshape] at hfuel ⊢
    simp only [List.length_cons, List.length_append] at hfuel
    obtain ⟨fuel, rfl⟩ : ∃ k, fuel = k + 1 := ⟨fuel - 1, by omega⟩
    have hbefore : skipFiller false
        ('\n' :: ' ' :: ' ' :: ' ' :: ' ' :: (writeText text ++ ',' :: elementLines texts rest)) =
          some (writeText text ++ ',' :: elementLines texts rest) :=
      skipFiller_writeText text _
    have hcomma : Closes (',' :: elementLines texts rest) := ⟨',', _, rfl, .inr (.inl rfl)⟩
    rw [readElements_step hbefore hcomma (by omega), skipFiller_cons (by decide)]
    show (readElements levels fuel (elementLines texts rest) >>= _) = _
    rw [ih (by omega)]
    rfl

/-- An array of strings is read back: without elements, with its only one, or line by line. -/
theorem recovers_writeArray (levels : Nat) (texts : List (List Char)) :
    Recovers (levels + 1) (writeArray (texts.map writeText))
      (.sequence (texts.map fun text => .string (String.ofList text))) := by
  intro fuel rest hfuel hrest
  obtain ⟨fuel, rfl⟩ : ∃ k, fuel = k + 1 := ⟨fuel - 1, by omega⟩
  have hvalue {body : List Char} {elements : List Datum}
      (h : readElements levels fuel body = some (elements, rest)) :
      readValue (levels + 1) (fuel + 1) ('[' :: body) = some (.sequence elements, rest) := by
    show (readElements levels fuel body).map _ = _
    rw [h]
    rfl
  match texts with
  | [] =>
    obtain ⟨fuel, rfl⟩ : ∃ k, fuel = k + 1 := ⟨fuel - 1, by simp [writeArray] at hfuel; omega⟩
    exact hvalue rfl
  | [text] =>
    have hshape : writeArray ([text].map writeText) ++ rest =
        '[' :: (writeText text ++ ']' :: rest) := by
      simp [writeArray]
    simp only [writeArray, List.map_cons, List.map_nil, List.length_append, List.length_cons,
      List.length_nil] at hfuel
    obtain ⟨fuel, rfl⟩ : ∃ k, fuel = k + 1 := ⟨fuel - 1, by omega⟩
    rw [hshape]
    refine hvalue ?_
    rw [readElements_step (skipFiller_writeText text _) ⟨']', _, rfl, .inr (.inr rfl)⟩ (by omega),
      skipFiller_cons (by decide)]
    rfl
  | first :: second :: others =>
    have hshape (rest : List Char) :
        writeArray ((first :: second :: others).map writeText) ++ rest =
          '[' :: elementLines (first :: second :: others) rest := by
      simp [writeArray, elementLines, List.flatMap_map]
    have hlength := congrArg List.length (hshape [])
    rw [List.append_nil, List.length_cons] at hlength
    rw [hshape]
    exact hvalue (readElements_elementLines levels _ rest (by omega))

end Integrity.Toml
