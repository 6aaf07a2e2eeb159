import Integrity.Proofs.Text.Numeral
import Integrity.Toml.Writer

/-! # Strings of TOML are read back

Between its quotes a string is written character by character, and each piece is read back as its
character. In a string of several lines a quote may stand for itself as long as no run of quotes
gets too long; the closing quotes prolong the last run. -/

namespace Integrity.Toml

variable {style : StringStyle} {mode next : StringMode} {c d : Char} {rest written text : List Char}

/-! ## Steps -/

theorem readString_go (h : stringStep style mode c rest = .go next) :
    readString style mode (c :: rest) = readString style next rest := by
  rw [readString, h]

theorem readString_emit (h : stringStep style mode c rest = .emit d) :
    readString style mode (c :: rest) =
      (readString style .plain rest).map fun (chars, rest) => (d :: chars, rest) := by
  rw [readString, h]

theorem readString_stop (h : stringStep style mode c rest = .stop) :
    readString style mode (c :: rest) =
      some ([], if style.multiline then rest.drop 2 else rest) := by
  rw [readString, h]

/-! ## Pieces -/

/-- What is written for a character. It does not start with the quote, and with the end of a line
only when that is the character. -/
structure Piece (style : StringStyle) (written : List Char) (c : Char) : Prop where
  starts : ∃ first others, written = first :: others ∧ first ≠ style.quote ∧ first ≠ '\r' ∧
    (first = '\n' → c = '\n')
  read : ∀ rest, readString style .plain (written ++ rest) =
    (readString style .plain rest).map fun (chars, rest) => (c :: chars, rest)

theorem isPrintable_of_not_isControl (hcontrol : isControl c = false) (hline : c ≠ '\n') :
    isPrintable c = true := by
  simp only [isControl, isPrintable, Bool.or_eq_false_iff, Bool.and_eq_false_iff,
    decide_eq_false_iff_not, bne_eq_false_iff_eq, beq_eq_false_iff_ne, Bool.or_eq_true,
    Bool.and_eq_true, beq_iff_eq, decide_eq_true_eq, bne_iff_ne] at hcontrol ⊢
  rcases hcontrol with ⟨(hlow | htab) | hfeed, hdelete⟩
  · exact .inr ⟨by omega, hdelete⟩
  · exact .inl htab
  · exact absurd hfeed hline

/-- A character that stands for itself. -/
theorem piece_self (hprintable : isPrintable c = true) (hquote : c ≠ style.quote)
    (hescape : ¬(c = '\\' ∧ style.quote = '"')) : Piece style [c] c := by
  have hline : c ≠ '\n' := by
    rintro rfl
    cases hprintable
  have hreturn : c ≠ '\r' := by
    rintro rfl
    cases hprintable
  refine ⟨⟨c, [], rfl, hquote, hreturn, id⟩, fun rest => ?_⟩
  have hstep : stringStep style .plain c rest = .emit c := by
    show plainStep style c rest = .emit c
    rw [plainStep, if_neg hquote, if_neg hescape, if_neg fun h => hline h.2,
      if_neg fun h => hreturn h.2, if_pos hprintable]
  exact readString_emit hstep

/-- The end of a line within a string of several lines. -/
theorem piece_line (hmultiline : style.multiline = true) (hquote : '\n' ≠ style.quote) :
    Piece style ['\n'] '\n' where
  starts := ⟨'\n', [], rfl, hquote, by decide, fun _ => rfl⟩
  read rest := by
    have hstep : stringStep style .plain '\n' rest = .emit '\n' := by
      show plainStep style '\n' rest = .emit '\n'
      rw [plainStep, if_neg hquote, if_neg fun h => absurd h.1 (by decide),
        if_pos ⟨hmultiline, rfl⟩]
    exact readString_emit hstep

theorem hexDigit?_toUpper_digitChar {n : Nat} (h : n < 16) :
    Numeral.hexDigit? (Nat.digitChar n).toUpper = some n := by
  have hall : ∀ m < 16, Numeral.hexDigit? (Nat.digitChar m).toUpper = some m := by decide
  exact hall n h

theorem readString_upperDigit {n missing value : Nat} (h : n < 16) (rest : List Char) :
    readString style (.digits (missing + 1) value) ((Nat.digitChar n).toUpper :: rest) =
      readString style (.digits missing (16 * value + n)) rest := by
  refine readString_go ?_
  simp only [stringStep, hexDigit?_toUpper_digitChar h]

section Escapes

variable (hstyle : style.quote = '"')
include hstyle

theorem readString_backslash (rest : List Char) :
    readString style .plain ('\\' :: rest) = readString style .escaped rest := by
  have hstep : stringStep style .plain '\\' rest = .go .escaped := by
    have hquote : '\\' ≠ style.quote := by
      rw [hstyle]
      decide
    show plainStep style '\\' rest = .go .escaped
    rw [plainStep, if_neg hquote, if_pos ⟨rfl, hstyle⟩]
  exact readString_go hstep

/-- A backslash and a letter. -/
theorem piece_letter {letter : Char}
    (h : ∀ rest, escapedStep style letter rest = .emit c) : Piece style ['\\', letter] c where
  starts := ⟨'\\', [letter], rfl, by rw [hstyle]; decide, by decide, nofun⟩
  read rest := by
    show readString style .plain ('\\' :: letter :: rest) = _
    rw [readString_backslash hstyle]
    exact readString_emit (h rest)

/-- A backslash and the code of a character that has no more than two digits. -/
theorem piece_code (h : c.toNat < 256) :
    Piece style
      ['\\', 'u', '0', '0', (Nat.digitChar (c.toNat / 16)).toUpper,
        (Nat.digitChar (c.toNat % 16)).toUpper] c where
  starts := ⟨'\\', _, rfl, by rw [hstyle]; decide, by decide, nofun⟩
  read rest := by
    have hhigh : c.toNat / 16 < 16 := by omega
    have hlow : c.toNat % 16 < 16 := by omega
    have hcode : 16 * (c.toNat / 16) + c.toNat % 16 = c.toNat := by omega
    have hchar : codePointStep c.toNat = .emit c := by
      have hvalid : c.toNat.isValidChar := c.valid
      rw [codePointStep, dif_pos hvalid]
      rfl
    have hlast : stringStep style (.digits 0 (c.toNat / 16))
        (Nat.digitChar (c.toNat % 16)).toUpper rest = .emit c := by
      simp only [stringStep, hexDigit?_toUpper_digitChar hlow, hcode, hchar]
    have hmark (rest : List Char) : readString style .escaped ('u' :: rest) =
        readString style (.digits 3 0) rest := readString_go rfl
    have hzero (missing : Nat) (rest : List Char) :
        readString style (.digits (missing + 1) 0) ('0' :: rest) =
          readString style (.digits missing 0) rest := readString_go rfl
    have hnext (rest : List Char) : readString style (.digits 1 0)
        ((Nat.digitChar (c.toNat / 16)).toUpper :: rest) =
          readString style (.digits 0 (c.toNat / 16)) rest := by
      rw [readString_upperDigit hhigh, Nat.mul_zero, Nat.zero_add]
    show readString style .plain ('\\' :: 'u' :: '0' :: '0' ::
      (Nat.digitChar (c.toNat / 16)).toUpper :: (Nat.digitChar (c.toNat % 16)).toUpper :: rest) = _
    rw [readString_backslash hstyle, hmark, hzero, hzero, hnext]
    exact readString_emit hlast

theorem piece_escapeControl (h : isControl c = true) : Piece style (escapeControl c) c := by
  rw [escapeControl]
  split
  · next heq =>
    subst heq
    exact piece_letter hstyle fun _ => rfl
  · split
    · next heq =>
      subst heq
      exact piece_letter hstyle fun _ => rfl
    · split
      · next heq =>
        subst heq
        exact piece_letter hstyle fun _ => rfl
      · refine piece_code hstyle ?_
        simp only [isControl, Bool.or_eq_true, Bool.and_eq_true, decide_eq_true_eq,
          beq_iff_eq] at h
        omega

/-- Every character can be written between double quotes. -/
theorem piece_escape (c : Char) : Piece style (escape c) c := by
  rw [escape]
  split
  · next hspecial => exact piece_letter hstyle fun _ => if_pos hspecial
  · next hspecial =>
    rw [not_or] at hspecial
    split
    · next heq =>
      subst heq
      exact piece_letter hstyle fun _ => rfl
    · split
      · next heq =>
        subst heq
        exact piece_letter hstyle fun _ => rfl
      · next hline =>
        split
        · next hcontrol => exact piece_escapeControl hstyle hcontrol
        · next hcontrol =>
          have hprintable := isPrintable_of_not_isControl (Bool.eq_false_iff.mpr hcontrol) hline
          exact piece_self hprintable (hstyle ▸ hspecial.1) fun h => hspecial.2 h.1

end Escapes

/-! ## Pieces in a row -/

/-- How a text is written between the quotes, after a run of quotes that stand for themselves. At
most two quotes in a row do, and none in a string of one line. -/
inductive Spells (style : StringStyle) : (run : Nat) → (written text : List Char) → Prop where
  | nil (run) : Spells style run [] []
  | quote {run written text} : style.multiline = true → run < 2 →
      Spells style (run + 1) written text →
      Spells style run (style.quote :: written) (style.quote :: text)
  | piece {run written c text} (piece) : Piece style piece c → Spells style 0 written text →
      Spells style run (piece ++ written) (c :: text)

theorem Spells.readString_line {run : Nat} (h : Spells style run written text)
    (hline : style.multiline = false) (rest : List Char) :
    readString style .plain (written ++ style.quote :: rest) = some (text, rest) := by
  have hstop : readString style .plain (style.quote :: rest) = some ([], rest) := by
    have hstep : stringStep style .plain style.quote rest = .stop := by
      show plainStep style style.quote rest = .stop
      rw [plainStep, if_pos rfl, quoteStep, hline]
      rfl
    rw [readString_stop hstep, hline]
    rfl
  induction h with
  | nil run => exact hstop
  | quote hmultiline => exact absurd (hline.symm.trans hmultiline) Bool.false_ne_true
  | piece _ hpiece _ ih =>
    rw [List.append_assoc, hpiece.read, ih]
    rfl

/-- The quotes at the front of a text. -/
def quotesAhead (quote : Char) (text : List Char) : Nat :=
  (text.takeWhile fun c => c == quote).length

theorem quotesAhead_cons_self (quote : Char) (text : List Char) :
    quotesAhead quote (quote :: text) = quotesAhead quote text + 1 := by
  simp [quotesAhead]

theorem quotesAhead_cons_of_ne {quote : Char} (h : c ≠ quote) (text : List Char) :
    quotesAhead quote (c :: text) = 0 := by
  simp [quotesAhead, h]

/-- The quotes that close a string of several lines, with a text after them that does not start with
another one. -/
def closing (quote : Char) (rest : List Char) : List Char :=
  quote :: quote :: quote :: rest

theorem quotesAhead_closing {quote : Char} (h : rest.head? ≠ some quote) :
    quotesAhead quote (closing quote rest) = 3 := by
  rw [closing, quotesAhead_cons_self, quotesAhead_cons_self, quotesAhead_cons_self]
  cases rest with
  | nil => rfl
  | cons c rest =>
    rw [quotesAhead_cons_of_ne]
    rintro rfl
    exact h rfl

/-- Quotes that stand for themselves come at most twice in a row, or up to twice in front of the
closing ones. -/
theorem Spells.quotesAhead_le {run : Nat} (h : Spells style run written text) (hrun : run ≤ 2)
    (hrest : rest.head? ≠ some style.quote) :
    let ahead := quotesAhead style.quote (written ++ closing style.quote rest)
    run + ahead ≤ 2 ∨ 3 ≤ ahead ∧ run + ahead ≤ 5 := by
  induction h with
  | nil run =>
    rw [List.nil_append, quotesAhead_closing hrest]
    omega
  | quote hmultiline hless _ ih =>
    have ih := ih (by omega)
    rw [List.cons_append, quotesAhead_cons_self]
    dsimp only at ih ⊢
    omega
  | piece _ hpiece _ _ =>
    obtain ⟨first, others, rfl, hfirst, -⟩ := hpiece.starts
    rw [List.append_assoc, List.cons_append, quotesAhead_cons_of_ne hfirst]
    omega

theorem Spells.readString_lines {run : Nat} (h : Spells style run written text) (hrun : run ≤ 2)
    (hmultiline : style.multiline = true) (hrest : rest.head? ≠ some style.quote) :
    readString style .plain (written ++ closing style.quote rest) = some (text, rest) := by
  have hquote (after : List Char) : stringStep style .plain style.quote after =
      if 6 ≤ quotesAhead style.quote after + 1 then .fail
      else if quotesAhead style.quote after + 1 = 3 then .stop
      else .emit style.quote := by
    show plainStep style style.quote after = _
    rw [plainStep, if_pos rfl, quoteStep, hmultiline]
    rfl
  induction h with
  | nil run =>
    have hahead := quotesAhead_closing hrest
    rw [closing, quotesAhead_cons_self] at hahead
    have hstep : stringStep style .plain style.quote (style.quote :: style.quote :: rest) =
        .stop := by
      rw [hquote, if_neg (by omega), if_pos hahead]
    rw [List.nil_append, closing, readString_stop hstep, if_pos hmultiline]
    rfl
  | @quote run written text _ hless hspells ih =>
    have hahead := hspells.quotesAhead_le (by omega) hrest
    -- More than three quotes are left or fewer, so that this one belongs to the string.
    have hstep : stringStep style .plain style.quote (written ++ closing style.quote rest) =
        .emit style.quote := by
      dsimp only at hahead
      rw [hquote, if_neg (by omega), if_neg (by omega)]
    rw [List.cons_append, readString_emit hstep, ih (by omega)]
    rfl
  | piece _ hpiece _ ih =>
    rw [List.append_assoc, hpiece.read, ih (by omega)]
    rfl

/-! ## The forms of a string -/

theorem spells_escape (text : List Char) :
    Spells ⟨'"', false⟩ 0 (text.flatMap escape) text := by
  induction text with
  | nil => exact .nil 0
  | cons c text ih => exact .piece _ (piece_escape rfl c) ih

theorem spells_escapeLines {run : Nat} (hrun : run ≤ 2) (text : List Char) :
    Spells ⟨'"', true⟩ run (escapeLines run text) text := by
  induction text generalizing run with
  | nil => exact .nil run
  | cons c text ih =>
    rw [escapeLines]
    split
    · next heq =>
      subst heq
      split
      · exact .piece ['\\', '"'] (piece_letter rfl fun _ => rfl) (ih (by omega))
      · exact .quote rfl (by omega) (ih (by omega))
    · split
      · next heq =>
        subst heq
        exact .piece ['\n'] (piece_line rfl (by decide)) (ih (by omega))
      · exact .piece _ (piece_escape rfl c) (ih (by omega))

theorem spells_literal (h : fitsLiteral text = true) : Spells ⟨'\x27', false⟩ 0 text text := by
  have hall : ∀ c ∈ text, isControl c = false ∧ c ≠ '\x27' ∧ c ≠ '\n' := by
    simp only [fitsLiteral, hasControl, Bool.and_eq_true, Bool.not_eq_true',
      List.any_eq_false, List.contains_eq_mem, decide_eq_false_iff_not] at h
    intro c hc
    refine ⟨Bool.eq_false_iff.mpr (h.1.1 c hc), ?_, ?_⟩ <;> rintro rfl
    · exact h.1.2 hc
    · exact h.2 hc
  clear h
  induction text with
  | nil => exact .nil 0
  | cons c text ih =>
    rw [List.forall_mem_cons] at hall
    obtain ⟨⟨hcontrol, hquote, hline⟩, hall⟩ := hall
    have hprintable := isPrintable_of_not_isControl hcontrol hline
    exact .piece [c] (piece_self hprintable hquote fun h => absurd h.2 (by decide))
      (ih hall)

/-- The longest run after a part of a text that was looked at. -/
def longestFrom (c : Char) (seen : Nat × Nat) (text : List Char) : Nat :=
  (text.foldl (fun (best, run) d => if d = c then (max best (run + 1), run + 1) else (best, 0))
    seen).1

theorem le_longestFrom (c : Char) (seen : Nat × Nat) (text : List Char) :
    seen.1 ≤ longestFrom c seen text := by
  induction text generalizing seen with
  | nil => exact Nat.le_refl _
  | cons d text ih =>
    have hnext := ih (if d = c then (max seen.1 (seen.2 + 1), seen.2 + 1) else (seen.1, 0))
    refine Nat.le_trans ?_ hnext
    split
    · exact Nat.le_max_left _ _
    · exact Nat.le_refl _

theorem spells_literalLines (hcontrol : hasControl text = false) (best run : Nat)
    (hrun : longestFrom '\x27' (best, run) text ≤ 2) : Spells ⟨'\x27', true⟩ run text text := by
  induction text generalizing best run with
  | nil => exact .nil run
  | cons c text ih =>
    simp only [hasControl, List.any_cons, Bool.or_eq_false_iff] at hcontrol ih
    by_cases hquote : c = '\x27'
    · subst hquote
      -- The run that this quote belongs to is no longer than the longest.
      have hnext : longestFrom '\x27' (max best (run + 1), run + 1) text ≤ 2 := hrun
      have hbest := le_longestFrom '\x27' (max best (run + 1), run + 1) text
      have hless : run < 2 := by
        dsimp only at hbest
        omega
      exact .quote rfl hless (ih hcontrol.2 _ _ hnext)
    · have hnext : longestFrom '\x27' (best, 0) text ≤ 2 := by
        simp only [longestFrom, List.foldl_cons, if_neg hquote] at hrun
        exact hrun
      have hpiece : Piece ⟨'\x27', true⟩ [c] c := by
        by_cases hline : c = '\n'
        · subst hline
          exact piece_line rfl (by decide)
        · have hprintable := isPrintable_of_not_isControl hcontrol.1 hline
          exact piece_self hprintable hquote fun h => absurd h.2 (by decide)
      exact .piece [c] hpiece (ih hcontrol.2 _ _ hnext)

/-! ## Strings with their quotes -/

theorem Spells.starts {run : Nat} (h : Spells style run written text)
    (hline : style.multiline = false) :
    written = [] ∨ ∃ first others, written = first :: others ∧ first ≠ style.quote := by
  cases h with
  | nil => exact .inl rfl
  | quote hmultiline => exact absurd (hline.symm.trans hmultiline) Bool.false_ne_true
  | @piece _ written _ _ piece hpiece _ =>
    obtain ⟨first, others, rfl, hfirst, -⟩ := hpiece.starts
    exact .inr ⟨first, others ++ written, rfl, hfirst⟩

theorem readLine_of_spells {quote : Char} {run : Nat} (h : Spells ⟨quote, false⟩ run written text)
    (rest : List Char) :
    readLine quote (written ++ quote :: rest) = some (String.ofList text, rest) := by
  rw [readLine, h.readString_line rfl rest]
  rfl

theorem readQuoted_of_ne {quote : Char} (h : c ≠ quote) (rest : List Char) :
    readQuoted quote (c :: rest) = readLine quote (c :: rest) := by
  cases rest with
  | nil => rfl
  | cons d rest => exact if_neg fun hquotes => h hquotes.1

theorem readQuoted_line {quote : Char} {run : Nat} (h : Spells ⟨quote, false⟩ run written text)
    (hrest : rest.head? ≠ some quote) :
    readQuoted quote (written ++ quote :: rest) = some (String.ofList text, rest) := by
  have hread := readLine_of_spells h rest
  rcases h.starts rfl with rfl | ⟨first, others, rfl, hfirst⟩
  · rw [List.nil_append] at hread ⊢
    cases rest with
    | nil => exact hread
    | cons c rest =>
      have hc : ¬(quote = quote ∧ c = quote) := by
        rintro ⟨-, rfl⟩
        exact hrest rfl
      rw [readQuoted, if_neg hc]
      exact hread
  · rw [List.cons_append, readQuoted_of_ne hfirst]
    exact hread

theorem newline?_of_ne (hline : c ≠ '\n') (hreturn : c ≠ '\r') (rest : List Char) :
    newline? (c :: rest) = none := by
  rw [newline?]
  · exact fun after h => hline (List.cons.inj h).1
  · exact fun after h => hreturn (List.cons.inj h).1

theorem Spells.newline?_eq_none {run : Nat} (h : Spells style run written text)
    (hquote : style.quote ≠ '\n' ∧ style.quote ≠ '\r') (htext : '\n' ∉ text)
    (rest : List Char) : newline? (written ++ closing style.quote rest) = none := by
  cases h with
  | nil => exact newline?_of_ne hquote.1 hquote.2 _
  | quote => exact newline?_of_ne hquote.1 hquote.2 _
  | piece _ hpiece _ =>
    obtain ⟨first, others, rfl, -, hreturn, hline⟩ := hpiece.starts
    refine newline?_of_ne (fun hfirst => htext ?_) hreturn _
    rw [hline hfirst]
    exact List.mem_cons_self

theorem readQuoted_lines {quote : Char} (h : Spells ⟨quote, true⟩ 0 written text)
    (hquote : quote ≠ '\n' ∧ quote ≠ '\r') (rest : List Char)
    (hrest : rest.head? ≠ some quote) :
    readQuoted quote (quote :: quote :: (opening text ++ (written ++ closing quote rest))) =
      some (String.ofList text, rest) := by
  have hread : readString ⟨quote, true⟩ .plain (written ++ closing quote rest) =
      some (text, rest) := h.readString_lines (Nat.zero_le 2) rfl hrest
  have hopened : (newline? (opening text ++ (written ++ closing quote rest))).getD
      (opening text ++ (written ++ closing quote rest)) = written ++ closing quote rest := by
    rw [opening]
    split
    · rfl
    · next hline =>
      have htext : '\n' ∉ text := by simpa using hline
      have hnone : newline? (written ++ closing quote rest) = none :=
        h.newline?_eq_none hquote htext rest
      rw [List.nil_append, hnone]
      rfl
  rw [readQuoted, if_pos ⟨rfl, rfl⟩, readLines, hopened, hread]
  rfl

/-! ## Strings and keys -/

/-- No quote of either kind comes next. -/
def IsUnquoted (rest : List Char) : Prop :=
  rest.head? ≠ some '"' ∧ rest.head? ≠ some '\x27'

/-- A string is read back from after its first quote. -/
def ReadsQuoted (written text : List Char) : Prop :=
  ∃ quote body, written = quote :: body ∧ (quote = '"' ∨ quote = '\x27') ∧
    ∀ rest, IsUnquoted rest → readQuoted quote (body ++ rest) = some (String.ofList text, rest)

theorem readsQuoted_basic (text : List Char) : ReadsQuoted (basic text) text := by
  refine ⟨'"', text.flatMap escape ++ ['"'], rfl, .inl rfl, fun rest hrest => ?_⟩
  rw [List.append_assoc]
  exact readQuoted_line (spells_escape text) hrest.1

theorem readsQuoted_literal (h : fitsLiteral text = true) : ReadsQuoted (literal text) text := by
  refine ⟨'\x27', text ++ ['\x27'], rfl, .inr rfl, fun rest hrest => ?_⟩
  rw [List.append_assoc]
  exact readQuoted_line (spells_literal h) hrest.2

theorem readsQuoted_basicLines (text : List Char) : ReadsQuoted (basicLines text) text := by
  refine ⟨'"', '"' :: '"' :: (opening text ++ escapeLines 0 text ++ ['"', '"', '"']), ?_,
    .inl rfl, fun rest hrest => ?_⟩
  · simp [basicLines]
  · have hread := readQuoted_lines (spells_escapeLines (Nat.zero_le 2) text) (by decide) rest
      hrest.1
    simpa [closing] using hread

theorem readsQuoted_literalLines (h : fitsLiteralLines text = true) :
    ReadsQuoted (literalLines text) text := by
  simp only [fitsLiteralLines, Bool.and_eq_true, Bool.not_eq_true', decide_eq_true_eq] at h
  refine ⟨'\x27', '\x27' :: '\x27' :: (opening text ++ text ++ ['\x27', '\x27', '\x27']), ?_,
    .inr rfl, fun rest hrest => ?_⟩
  · simp [literalLines]
  · have hread := readQuoted_lines (spells_literalLines h.1 0 0 h.2) (by decide) rest hrest.2
    simpa [closing] using hread

theorem readsQuoted_writeText (text : List Char) : ReadsQuoted (writeText text) text := by
  rw [writeText]
  split
  · exact readsQuoted_basic text
  · split
    · next hfits => exact readsQuoted_literal hfits
    · split
      · exact readsQuoted_basicLines text
      · split
        · next hfits => exact readsQuoted_literalLines hfits
        · split
          · exact readsQuoted_basicLines text
          · exact readsQuoted_basic text

/-- What may come after a key without quotes. -/
def EndsBare (rest : List Char) : Prop :=
  ∀ c ∈ rest.head?, isBare c = false

theorem readSimpleKey_bare {key : List Char} (hkey : key ≠ []) (hbare : key.all isBare = true)
    (hrest : EndsBare rest) :
    readSimpleKey (key ++ rest) = some (String.ofList key, rest) := by
  have hall : ∀ c ∈ key, isBare c = true := List.all_eq_true.mp hbare
  have htake : (key ++ rest).takeWhile isBare = key := by
    rw [List.takeWhile_append_of_pos hall]
    cases rest with
    | nil => exact List.append_nil key
    | cons c rest => rw [List.takeWhile_cons_of_neg (by simp [hrest c rfl]), List.append_nil]
  have hdrop : (key ++ rest).dropWhile isBare = rest := by
    rw [List.dropWhile_append_of_pos hall]
    cases rest with
    | nil => rfl
    | cons c rest => exact List.dropWhile_cons_of_neg (by simp [hrest c rfl])
  cases key with
  | nil => exact absurd rfl hkey
  | cons c key =>
    have hc : isBare c = true := hall c List.mem_cons_self
    have hquoted (quote : Char) (hquote : isBare quote = false) (after : List Char) :
        c :: key ++ rest ≠ quote :: after := by
      intro heq
      rw [(List.cons.inj heq).1, hquote] at hc
      cases hc
    have hread := readSimpleKey.eq_3 _ (hquoted '"' rfl) (hquoted '\x27' rfl)
    rw [hread, htake, hdrop]

theorem readSimpleKey_writeKey (key : List Char) (hrest : EndsBare rest) :
    readSimpleKey (writeKey key ++ rest) = some (String.ofList key, rest) := by
  have hbasic : readSimpleKey (basic key ++ rest) = some (String.ofList key, rest) := by
    have hread := readLine_of_spells (spells_escape key) rest
    simpa [basic, readSimpleKey] using hread
  rw [writeKey]
  split
  · next h =>
    rw [Bool.and_eq_true, Bool.not_eq_true', List.isEmpty_eq_false_iff] at h
    exact readSimpleKey_bare h.1 h.2 hrest
  · split
    · exact hbasic
    · split
      · next hfits =>
        have hread := readLine_of_spells (spells_literal hfits) rest
        simpa [literal, readSimpleKey] using hread
      · exact hbasic

end Integrity.Toml
