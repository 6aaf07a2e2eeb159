import Integrity.Json.Typed
import Integrity.Json.Writer
import Integrity.Proofs.Text.Numeral

/-! # Reading JSON back

What is written as a string, a number or a truth value is read back, whatever stands behind it in an
object. An object is read back member by member. -/

namespace Integrity.Json

theorem ok_bind {α β : Type} (a : α) (next : α → Except ReadError β) :
    (Except.ok a >>= next) = next a :=
  rfl

/-! ## Strings -/

section Strings

variable {mode : StringMode} {c d : Char} {rest : List Char}

theorem readString_go (next : StringMode) (h : stringStep true mode c rest = .go next) :
    readString true mode (c :: rest) = readString true next rest := by
  rw [readString, h]

theorem readString_emit (h : stringStep true mode c rest = .emit d) :
    readString true mode (c :: rest) =
      (readString true .plain rest).map fun (chars, after) => (d :: chars, after) := by
  rw [readString, h]
  cases readString true .plain rest <;> rfl

end Strings

theorem stringStep_escapeLetter {c letter : Char} (h : escapeLetter? c = some letter)
    (rest : List Char) : stringStep true .escaped letter rest = .emit c := by
  simp only [escapeLetter?] at h
  repeat' split at h
  all_goals cases h
  · next hc => rcases hc with rfl | rfl <;> rfl
  all_goals
    subst_vars
    rfl

/-- Four characters are enough for the digits of a unit. -/
theorem isShort_eq_false (c₁ c₂ c₃ c₄ : Char) (rest : List Char) :
    isShort (c₁ :: c₂ :: c₃ :: c₄ :: rest) = false := by
  have hsize (c : Char) : 1 ≤ (String.utf8EncodeChar c).length := by
    rw [String.length_utf8EncodeChar]
    exact c.utf8Size_pos
  have h₁ := hsize c₁
  have h₂ := hsize c₂
  have h₃ := hsize c₃
  have h₄ := hsize c₄
  simp only [isShort, utf8, List.take_succ_cons, List.take_zero, List.flatMap_cons,
    List.flatMap_nil, List.length_append, List.length_nil, decide_eq_false_iff_not]
  omega

/-- A control is read back from its four digits. -/
theorem readString_control {c : Char} (h : c.toNat < 0x20) (text : List Char) :
    readString true .plain ('\\' :: 'u' :: '0' :: '0' :: Nat.digitChar (c.toNat / 16) ::
        Nat.digitChar (c.toNat % 16) :: text) =
      (readString true .plain text).map fun (chars, after) => (c :: chars, after) := by
  have hhigh : Numeral.hexDigit? (Nat.digitChar (c.toNat / 16)) = some (c.toNat / 16) :=
    Numeral.hexDigit?_digitChar (by omega)
  have hlow : Numeral.hexDigit? (Nat.digitChar (c.toNat % 16)) = some (c.toNat % 16) :=
    Numeral.hexDigit?_digitChar (by omega)
  have hzero : Numeral.hexDigit? '0' = some 0 := rfl
  have hunit : completeUnit true c.toNat none = .emit c := by
    have hlowHalf : isLowHalf c.toNat = false := by
      simp only [isLowHalf, Bool.and_eq_false_iff, decide_eq_false_iff_not]
      omega
    have hhighHalf : isHighHalf c.toNat = false := by
      simp only [isHighHalf, Bool.and_eq_false_iff, decide_eq_false_iff_not]
      omega
    simp only [completeUnit, hlowHalf, hhighHalf, Char.ofNat_toNat]
    rfl
  rw [readString_go .escaped rfl, readString_go (.digits 3 0 none)]
  · rw [readString_go (.digits 2 0 none) rfl,
      readString_go (.digits 1 0 none) rfl,
      readString_go (.digits 0 (c.toNat / 16) none)]
    · apply readString_emit
      simp only [stringStep, hlow]
      rw [← hunit]
      congr 1
      omega
    · simp only [stringStep, hhigh]
      congr 2
      omega
  · show startUnit none _ = _
    rw [startUnit, isShort_eq_false]
    rfl

theorem readString_escape (c : Char) (text : List Char) :
    readString true .plain (escape c ++ text) =
      (readString true .plain text).map fun (chars, after) => (c :: chars, after) := by
  rw [escape]
  cases hletter : escapeLetter? c with
  | some letter =>
    show readString true .plain ('\\' :: letter :: text) = _
    rw [readString_go .escaped rfl,
      readString_emit (stringStep_escapeLetter hletter text)]
  | none =>
    dsimp only
    split
    · next hcontrol => exact readString_control hcontrol text
    · next hcontrol =>
      have hquotes : c ≠ '"' ∧ c ≠ '\\' := by
        constructor <;> rintro rfl <;> cases hletter
      apply readString_emit
      simp only [stringStep, hquotes.1, hquotes.2, hcontrol, if_false]

theorem readString_flatMap_escape (text rest : List Char) :
    readString true .plain (text.flatMap escape ++ '"' :: rest) = .ok (text, rest) := by
  induction text with
  | nil => rfl
  | cons c text ih =>
    rw [List.flatMap_cons, List.append_assoc, readString_escape, ih]
    rfl

theorem readText_writeText (text rest : List Char) :
    readText (writeText text ++ rest) = .ok (String.ofList text, rest) := by
  have hshape : writeText text ++ rest = '"' :: (text.flatMap escape ++ '"' :: rest) := by
    simp [writeText]
  have hread := readString_flatMap_escape text rest
  rw [hshape]
  show (readString true .plain _).map _ = _
  rw [hread]
  rfl

/-! ## What stands behind a value -/

/-- The text goes on, within an object, with another member or with its end. -/
def Closes (rest : List Char) : Prop :=
  ∃ after, rest = ',' :: after ∨ rest = '}' :: after

theorem Closes.leading_eq_nil {rest : List Char} (h : Closes rest) : Numeral.leading rest = [] := by
  obtain ⟨after, rfl | rfl⟩ := h <;> rfl

/-- What is written is read back, and nothing of what stands behind it is read. -/
def Recovers {α : Type} (read : List Char → Except ReadError (α × List Char))
    (written : List Char) (value : α) : Prop :=
  ∀ rest, Closes rest → read (written ++ rest) = .ok (value, rest)

/-- What is written is refused, whatever stands behind it. -/
def Refuses {α : Type} (read : List Char → Except ReadError α) (written : List Char)
    (error : ReadError) : Prop :=
  ∀ rest, Closes rest → read (written ++ rest) = .error error

theorem recovers_readText (text : String) : Recovers readText (writeText text.toList) text := by
  intro rest _
  rw [readText_writeText, String.ofList_toList]

theorem recovers_readFlag (flag : Bool) : Recovers readFlag (writeFlag flag) flag := by
  intro rest _
  cases flag <;> rfl

/-! ## Numbers -/

theorem readWhole_ofNat {short : ReadError} {rest : List Char}
    (h : Numeral.leading rest = []) (n : Nat) :
    readWhole short (Numeral.ofNat n ++ rest) = .ok (Numeral.ofNat n, rest) := by
  obtain ⟨c, digits, hshape, -⟩ := Numeral.exists_ofNat_eq_cons n
  have hdigits : readDigits short (Numeral.ofNat n ++ rest) = .ok (Numeral.ofNat n, rest) := by
    rw [readDigits, Numeral.leading_ofNat_append n rest h, Numeral.trailing_ofNat_append n rest h,
      hshape]
  rw [readWhole, hdigits, ok_bind]
  dsimp only
  split
  · next heq => exact absurd heq (Numeral.ofNat_ne_zero_cons n _ _)
  · rfl

theorem readUnsigned_ofNat {rest : List Char} (h : Closes rest) (negative : Bool) (n : Nat)
    (hfits : Temperature.FitsWord128 (if negative then -(n : Int) else n)) :
    readUnsigned negative (Numeral.ofNat n ++ rest) =
      .ok (if negative then -(n : Int) else n, rest) := by
  rw [readUnsigned, readWhole_ofNat h.leading_eq_nil]
  show (if Temperature.FitsWord128 _ then _ else _) = _
  rw [Numeral.value_ofNat, if_pos hfits]
  rfl

theorem isBlank_of_isDigit {c : Char} (h : c.isDigit = true) : isBlank c = false := by
  rw [Bool.eq_false_iff]
  intro hblank
  simp only [isBlank, Bool.or_eq_true, beq_iff_eq] at hblank
  rcases hblank with ((rfl | rfl) | rfl) | rfl <;> cases h

theorem skipBlanks_cons {c : Char} (h : isBlank c = false) (rest : List Char) :
    skipBlanks (c :: rest) = c :: rest := by
  simp [skipBlanks, h]

theorem recovers_readInteger {n : Int} (h : Temperature.FitsWord128 n) :
    Recovers readInteger (Numeral.ofInt n) n := by
  intro rest hrest
  cases n with
  | ofNat n =>
    obtain ⟨c, digits, hshape, hdigit⟩ := Numeral.exists_ofNat_eq_cons n
    have hread := readUnsigned_ofNat hrest false n h
    have hsign : c ≠ '-' := by
      rintro rfl
      cases hdigit
    rw [hshape, List.cons_append] at hread
    rw [Numeral.ofInt, readInteger, hshape, List.cons_append,
      skipBlanks_cons (isBlank_of_isDigit hdigit)]
    split
    · next heq => cases heq
    · next heq => exact absurd (List.cons.inj heq).1 hsign
    · exact hread
  | negSucc n => exact readUnsigned_ofNat hrest true (n + 1) h

theorem Closes.readFraction {rest : List Char} (h : Closes rest) (short : ReadError) :
    readFraction short rest = .ok ([], rest) := by
  obtain ⟨after, rfl | rfl⟩ := h <;> rfl

theorem Closes.readExponent {rest : List Char} (h : Closes rest) (short : ReadError) :
    readExponent short rest = .ok (none, rest) := by
  obtain ⟨after, rfl | rfl⟩ := h <;> rfl

theorem readNumber_ofNat {rest : List Char} (h : Closes rest) (short : ReadError) (n : Nat) :
    readNumber short (Numeral.ofNat n ++ rest) =
      .ok (⟨false, Numeral.ofNat n, [], none⟩, rest) := by
  obtain ⟨c, digits, hshape, hdigit⟩ := Numeral.exists_ofNat_eq_cons n
  have hwhole : readWhole short (Numeral.ofNat n ++ rest) = .ok (Numeral.ofNat n, rest) :=
    readWhole_ofNat h.leading_eq_nil n
  have hunsigned : ∀ after, Numeral.ofNat n ++ rest ≠ '-' :: after := by
    rintro after heq
    rw [hshape] at heq
    rw [(List.cons.inj heq).1] at hdigit
    cases hdigit
  rw [readNumber, hwhole]
  · show (Json.readFraction short rest >>= _) = _
    rw [h.readFraction]
    show (Json.readExponent short rest >>= _) = _
    rw [h.readExponent]
    rfl
  · exact hunsigned

theorem recovers_readNumberValue {n : Nat} (h : n ≤ maxWord64) :
    Recovers readNumberValue (Numeral.ofNat n) (.integer n) := by
  intro rest hrest
  have hvalue : NumberText.value? ⟨false, Numeral.ofNat n, [], none⟩ = some (.integer n) := by
    simp [NumberText.value?, Numeral.value_ofNat, h]
  rw [readNumberValue, readNumber_ofNat hrest, ok_bind]
  dsimp only
  rw [hvalue]
  rfl

theorem recovers_readNatural {n most : Nat} (hmost : most ≤ maxWord64) (h : n ≤ most) :
    Recovers (readNatural most) (Numeral.ofNat n) n := by
  intro rest hrest
  obtain ⟨c, digits, hshape, hdigit⟩ := Numeral.exists_ofNat_eq_cons n
  have hnumber := recovers_readNumberValue (Nat.le_trans h hmost) rest hrest
  have hstart : startsNumber c = true := by simp [startsNumber, hdigit]
  rw [hshape, List.cons_append] at hnumber ⊢
  simp only [readNatural, skipBlanks_cons (isBlank_of_isDigit hdigit), hstart, hnumber, if_true]
  rw [if_pos ⟨Int.natCast_nonneg n, h⟩, Int.toNat_natCast]

/-! ## Objects -/

/-- The two braces alone give enough fuel for an event with the most fields. -/
theorem lt_fuelFor_writeObject (members : List (String × List Char)) :
    5 < fuelFor (writeObject members) := by
  have hlength : 2 ≤ (writeObject members).length := by
    rw [writeObject, List.length_append, List.length_cons, List.length_singleton]
    omega
  rw [fuelFor]
  omega

section Members

variable {σ : Type} {member : σ → String → List Char → Except ReadError (σ × List Char)}

/-- Members that are read one after the other, each from the colon behind its key, up to the first
that is refused. -/
inductive Folds (member : σ → String → List Char → Except ReadError (σ × List Char)) :
    σ → List (String × List Char) → Except ReadError σ → Prop where
  | nil (state) : Folds member state [] (.ok state)
  | cons {state next outcome key value members} :
      Recovers (member state key) (':' :: value) next → Folds member next members outcome →
      Folds member state ((key, value) :: members) outcome
  | stop {state key value members error} :
      Refuses (member state key) (':' :: value) error →
      Folds member state ((key, value) :: members) (.error error)

/-- The members behind the first. -/
def writeFurther (members : List (String × List Char)) : List Char :=
  members.flatMap fun (key, value) => ',' :: writeMember key value

theorem separated_map_cons (key : String) (value : List Char)
    (members : List (String × List Char)) :
    separated (((key, value) :: members).map fun (key, value) => writeMember key value) =
      writeMember key value ++ writeFurther members := by
  induction members generalizing key value with
  | nil => simp [separated, writeFurther]
  | cons first rest ih =>
    have hrest := ih first.1 first.2
    rw [List.map_cons] at hrest
    rw [List.map_cons, List.map_cons, separated, hrest]
    · rfl
    · nofun

theorem closes_writeFurther (members : List (String × List Char)) (rest : List Char) :
    Closes (writeFurther members ++ '}' :: rest) := by
  cases members with
  | nil => exact ⟨rest, .inr rfl⟩
  | cons first members => exact ⟨_, .inl rfl⟩

/-- Once its key is found, a member is read and the others are read from there. -/
theorem foldMembers_key {fuel : Nat} {first : Bool} {state : σ} {key : String}
    {text tail : List Char}
    (hkey : nextKey first text = .ok (.more (key.toList.flatMap escape ++ '"' :: tail))) :
    foldMembers member (fuel + 1) first state text =
      (member state key tail).bind fun (next, text) => foldMembers member fuel false next text := by
  rw [foldMembers, hkey]
  show (readString true .plain _ >>= _) = _
  rw [readString_flatMap_escape]
  show (member state (String.ofList key.toList) _ >>= _) = _
  rw [String.ofList_toList]
  rfl

theorem writeMember_append (key : String) (value tail : List Char) :
    writeMember key value ++ tail =
      '"' :: (key.toList.flatMap escape ++ '"' :: (':' :: value ++ tail)) := by
  simp [writeMember, writeText]

theorem nextKey_writeFurther (key : String) (value : List Char)
    (members : List (String × List Char)) (rest : List Char) :
    nextKey false (writeFurther ((key, value) :: members) ++ '}' :: rest) =
      .ok (.more (key.toList.flatMap escape ++
        '"' :: (':' :: value ++ (writeFurther members ++ '}' :: rest)))) := by
  have hshape : writeFurther ((key, value) :: members) ++ '}' :: rest =
      ',' :: (writeMember key value ++ (writeFurther members ++ '}' :: rest)) := by
    simp [writeFurther]
  rw [hshape, writeMember_append]
  rfl

theorem Folds.foldMembers_further {state : σ} {members : List (String × List Char)}
    {outcome : Except ReadError σ} (h : Folds member state members outcome) {fuel : Nat}
    (hfuel : members.length < fuel) (rest : List Char) :
    foldMembers member fuel false state (writeFurther members ++ '}' :: rest) =
      outcome.map fun final => (final, rest) := by
  induction h generalizing fuel with
  | nil state =>
    obtain ⟨fuel, rfl⟩ := Nat.exists_eq_add_of_lt hfuel
    rfl
  | @cons state next outcome key value members hvalue _ ih =>
    obtain ⟨fuel, rfl⟩ : ∃ k, fuel = k + 1 := ⟨fuel - 1, by omega⟩
    rw [List.length_cons] at hfuel
    rw [foldMembers_key (nextKey_writeFurther key value members rest),
      hvalue _ (closes_writeFurther members rest)]
    exact ih (Nat.lt_of_succ_lt_succ hfuel)
  | @stop state key value members error hvalue =>
    obtain ⟨fuel, rfl⟩ : ∃ k, fuel = k + 1 := ⟨fuel - 1, by omega⟩
    rw [foldMembers_key (nextKey_writeFurther key value members rest),
      hvalue _ (closes_writeFurther members rest)]
    rfl

theorem writeObject_cons_append (key : String) (value : List Char)
    (members : List (String × List Char)) (rest : List Char) :
    writeObject ((key, value) :: members) ++ rest =
      '{' :: (writeMember key value ++ (writeFurther members ++ '}' :: rest)) := by
  rw [writeObject, separated_map_cons]
  simp

theorem lt_fuelFor_writeObject_cons (member : String × List Char)
    (members : List (String × List Char)) : 6 < fuelFor (writeObject (member :: members)) := by
  have hshape := writeObject_cons_append member.1 member.2 members []
  rw [writeMember_append, List.append_nil] at hshape
  rw [fuelFor, hshape]
  simp only [List.length_cons, List.length_append]
  omega

theorem nextKey_writeMember (key : String) (value tail : List Char) :
    nextKey true (writeMember key value ++ tail) =
      .ok (.more (key.toList.flatMap escape ++ '"' :: (':' :: value ++ tail))) := by
  rw [writeMember_append]
  rfl

/-- An object is read as its members are, one after the other. -/
theorem Folds.read_writeObject {state : σ} {members : List (String × List Char)}
    {outcome : Except ReadError σ} (h : Folds member state members outcome) {fuel : Nat}
    (hfuel : members.length < fuel) (rest : List Char) :
    ∃ text, writeObject members ++ rest = '{' :: text ∧
      foldMembers member fuel true state text = outcome.map fun final => (final, rest) := by
  obtain ⟨fuel, rfl⟩ : ∃ k, fuel = k + 1 := ⟨fuel - 1, by omega⟩
  cases h with
  | nil state => exact ⟨'}' :: rest, rfl, rfl⟩
  | @cons _ next _ key value members hvalue hmembers =>
    rw [List.length_cons] at hfuel
    refine ⟨_, writeObject_cons_append key value members rest, ?_⟩
    rw [foldMembers_key (nextKey_writeMember key value _),
      hvalue _ (closes_writeFurther members rest)]
    exact hmembers.foldMembers_further (Nat.lt_of_succ_lt_succ hfuel) rest
  | @stop _ key value members _ hvalue =>
    refine ⟨_, writeObject_cons_append key value members rest, ?_⟩
    rw [foldMembers_key (nextKey_writeMember key value _),
      hvalue _ (closes_writeFurther members rest)]
    rfl

end Members

end Integrity.Json
