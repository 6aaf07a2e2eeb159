import Integrity.Proofs.Json.Recovery
import Integrity.Proofs.Temperature.ControlLaw
import Integrity.Temperature.Text

/-! # Bounds that a caller can come by

Bounds that are made are checked, and every control step with them is safe. Bounds that are read are
not: any two numbers of 128 bits can be read as bounds, and a step with them is safe only when they
are positive and ordered. -/

namespace Integrity.Temperature

open Json (ReadError Recovers)

/-! ## Numbers that are read fit -/

theorem readUnsigned_ends (negative : Bool) (text : List Char) :
    Ends (Json.readUnsigned negative text) (fun made => FitsWord128 made.1) fun _ => True := by
  have hgate (n : Int) (rest : List Char) :
      Ends (if FitsWord128 n then .ok (n, rest) else .error ReadError.malformed)
        (fun made => FitsWord128 made.1) fun _ => True := by
    split
    · next hfits => exact hfits
    · trivial
  exact (ends_trivially _).bind fun (digits, rest) _ => hgate _ rest

theorem readInteger_ends (text : List Char) :
    Ends (Json.readInteger text) (fun made => FitsWord128 made.1) fun _ => True := by
  rw [Json.readInteger]
  split
  · trivial
  · exact readUnsigned_ends true _
  · exact readUnsigned_ends false _

theorem foldMembers_ends {σ : Type} {good : σ → Prop}
    {member : σ → String → List Char → Except ReadError (σ × List Char)}
    (hmember : ∀ state key text, good state →
      Ends (member state key text) (fun made => good made.1) fun _ => True)
    (fuel : Nat) (first : Bool) {state : σ} (text : List Char) (h : good state) :
    Ends (Json.foldMembers member fuel first state text) (fun made => good made.1)
      fun _ => True := by
  induction fuel generalizing first state text with
  | zero => trivial
  | succ fuel ih =>
    rw [Json.foldMembers]
    split
    · trivial
    · exact h
    · refine (ends_trivially _).bind fun key _ => ?_
      refine (hmember state _ key.2 h).bind fun made hmade => ?_
      exact ih false made.2 hmade

namespace Bounds

variable {bounds : Bounds}

/-- Both numbers fit 128 bits. -/
def Fits (bounds : Bounds) : Prop :=
  FitsWord128 bounds.min ∧ FitsWord128 bounds.max

/-- The numbers that have been read fit. -/
def Known.Fits (known : Known) : Prop :=
  (∀ n ∈ known.min, FitsWord128 n) ∧ ∀ n ∈ known.max, FitsWord128 n

theorem readOnce_ends (known : Option Int) (text : List Char) :
    Ends (Signals.readOnce known text) (fun made => FitsWord128 made.1) fun _ => True := by
  rw [Signals.readOnce]
  split
  · trivial
  · exact (ends_trivially _).bind fun text _ => readInteger_ends text

theorem readMember_ends (fuel : Nat) (known : Known) (key : String) (text : List Char)
    (h : known.Fits) :
    Ends (readMember fuel known key text) (fun made => made.1.Fits) fun _ => True := by
  rw [readMember]
  split
  · exact (readOnce_ends _ text).map fun (n, rest) hn => ⟨by simpa using hn, h.2⟩
  · split
    · exact (readOnce_ends _ text).map fun (n, rest) hn => ⟨h.1, by simpa using hn⟩
    · exact (ends_trivially _).map fun _ _ => h

theorem required_ends {good : Int → Prop} {known : Option Int} (h : ∀ n ∈ known, good n) :
    Ends (Json.required known) good fun _ => True := by
  cases known with
  | none => trivial
  | some n => exact h n rfl

theorem readElement_ends (first : Bool) (text : List Char) :
    Ends (readElement first text) (fun made => FitsWord128 made.1) fun _ => True := by
  refine (ends_trivially _).bind fun next _ => ?_
  cases next with
  | done rest => trivial
  | more text => exact readInteger_ends text

theorem read_ends (fuel : Nat) (text : List Char) :
    Ends (read fuel text) (fun made => made.1.Fits) fun _ => True := by
  rw [read]
  split
  · trivial
  · split
    · have hfits : Known.Fits ⟨none, none⟩ := by simp [Known.Fits]
      refine (foldMembers_ends (readMember_ends fuel) fuel true _ hfits).bind ?_
      rintro ⟨known, rest⟩ hknown
      refine (required_ends hknown.1).bind fun min hmin => ?_
      refine (required_ends hknown.2).bind fun max hmax => ?_
      exact ⟨hmin, hmax⟩
    · split
      · refine (readElement_ends true _).bind fun (min, text) hmin => ?_
        refine (readElement_ends false text).bind fun (max, text) hmax => ?_
        exact (ends_trivially _).bind fun _ _ => ⟨hmin, hmax⟩
      · trivial

/-! ## Bounds are read back -/

theorem recovers_readMember_min (fuel : Nat) {min : Int} (h : FitsWord128 min) :
    Recovers (readMember fuel ⟨none, none⟩ "min") (':' :: Numeral.ofInt min) ⟨some min, none⟩ := by
  intro rest hrest
  show (Json.readInteger (Numeral.ofInt min ++ rest)).map _ = _
  rw [Json.recovers_readInteger h rest hrest]
  rfl

theorem recovers_readMember_max (fuel : Nat) (min : Int) {max : Int} (h : FitsWord128 max) :
    Recovers (readMember fuel ⟨some min, none⟩ "max") (':' :: Numeral.ofInt max)
      ⟨some min, some max⟩ := by
  intro rest hrest
  show (Json.readInteger (Numeral.ofInt max ++ rest)).map _ = _
  rw [Json.recovers_readInteger h rest hrest]
  rfl

/-- Reading does not ask whether the numbers bound temperatures. -/
theorem ofText_write (h : bounds.Fits) : ofText bounds.write = .ok bounds := by
  have hfolds : ∀ fuel, Json.Folds (readMember fuel) ⟨none, none⟩
      [("min", Numeral.ofInt bounds.min), ("max", Numeral.ofInt bounds.max)]
      (.ok ⟨some bounds.min, some bounds.max⟩) := fun fuel =>
    .cons (recovers_readMember_min fuel h.1)
      (.cons (recovers_readMember_max fuel bounds.min h.2) (.nil _))
  have hfuel : 2 < Json.fuelFor bounds.write :=
    Nat.lt_trans (by decide) (Json.lt_fuelFor_writeObject _)
  obtain ⟨text, hshape, hread⟩ := (hfolds (Json.fuelFor bounds.write)).read_writeObject hfuel []
  have hbounds : read (Json.fuelFor bounds.write) bounds.write = .ok (bounds, []) := by
    rw [List.append_nil] at hshape
    generalize Json.fuelFor bounds.write = fuel at hread
    rw [write, hshape, read]
    show (Json.foldMembers (readMember fuel) fuel true ⟨none, none⟩ text >>= _) = _
    rw [hread]
    rfl
  rw [ofText, hbounds]
  rfl

/-! ## What a caller can come by -/

/-- Bounds that some two numbers of 128 bits are made into. -/
def IsMade (bounds : Bounds) : Prop :=
  ∃ min max, FitsWord128 min ∧ FitsWord128 max ∧ Bounds.make min max = .ok bounds

/-- Bounds that some text holds. -/
def IsRead (bounds : Bounds) : Prop :=
  ∃ text, ofText text = .ok bounds

theorem isMade_iff : bounds.IsMade ↔ bounds.Fits ∧ bounds.IsValid := by
  constructor
  · rintro ⟨min, max, hmin, hmax, hmake⟩
    obtain ⟨rfl, hvalid⟩ := Bounds.make_eq_ok.mp hmake
    exact ⟨⟨hmin, hmax⟩, hvalid⟩
  · rintro ⟨⟨hmin, hmax⟩, hvalid⟩
    exact ⟨bounds.min, bounds.max, hmin, hmax, Bounds.make_eq_ok.mpr ⟨rfl, hvalid⟩⟩

theorem isRead_iff : bounds.IsRead ↔ bounds.Fits := by
  constructor
  · rintro ⟨text, htext⟩
    have hends : Ends (ofText text) Fits fun _ => True := by
      refine (read_ends _ text).bind fun (bounds, rest) hfits => ?_
      exact (ends_trivially _).bind fun _ _ => hfits
    rw [htext] at hends
    exact hends
  · exact fun h => ⟨bounds.write, ofText_write h⟩

/-! ## Safety -/

/-- A control step with the bounds stays within them, or some quantity does not fit. -/
def IsSafe (bounds : Bounds) : Prop :=
  ∀ gains temperature integral lastError signals,
    Ends (step gains bounds temperature integral lastError signals)
      (fun made => bounds.Admits made.temperature) ControlFailure.IsOverflow

/-- The step that is asked to stay at the temperature zero. -/
theorem step_zero (bounds : Bounds) :
    step ⟨0, 0, 0⟩ bounds 0 0 0 ⟨0, 0, 0⟩ =
      if bounds.max < bounds.min then .error (.unordered bounds)
      else if bounds.clamp 0 ≤ 0 then .error (.degenerate (bounds.clamp 0))
      else .ok ⟨0, 0, 0, 0, bounds.clamp 0⟩ :=
  rfl

theorem isSafe_iff : bounds.IsSafe ↔ 0 < bounds.min ∧ bounds.min ≤ bounds.max := by
  constructor
  · intro h
    -- Nothing overflows when the temperature is to stay at zero, so the bounds decide.
    have hzero := h ⟨0, 0, 0⟩ 0 0 0 ⟨0, 0, 0⟩
    rw [step_zero] at hzero
    split at hzero
    · obtain ⟨stage, heq⟩ := hzero
      cases heq
    · next hordered =>
      have hle := Int.not_lt.mp hordered
      split at hzero
      · obtain ⟨stage, heq⟩ := hzero
        cases heq
      · next hclamp =>
        have hlow := (Bounds.clamp_mem hle 0).1
        simp only [clamp] at hclamp
        split at hclamp <;> omega
  · rintro ⟨hpositive, hle⟩ gains temperature integral lastError signals
    exact step_ends_of_le hpositive hle gains temperature integral lastError signals

/-- Any two numbers of 128 bits are bounds that a caller can come by, and those that are made are
valid and safe. Those that are read are safe only when they are positive and ordered. -/
theorem isSafe_of_obtained (bounds : Bounds) :
    (bounds.IsMade ∨ bounds.IsRead ↔ bounds.Fits) ∧
      (bounds.IsMade → bounds.IsValid ∧ bounds.IsSafe) ∧
      (bounds.IsRead → (bounds.IsSafe ↔ 0 < bounds.min ∧ bounds.min ≤ bounds.max)) := by
  refine ⟨⟨?_, fun h => .inr (isRead_iff.mpr h)⟩, fun hmade => ?_, fun _ => isSafe_iff⟩
  · rintro (hmade | hread)
    · exact (isMade_iff.mp hmade).1
    · exact isRead_iff.mp hread
  · obtain ⟨-, hvalid⟩ := isMade_iff.mp hmade
    exact ⟨hvalid, isSafe_iff.mpr ⟨hvalid.1, Int.le_of_lt hvalid.2⟩⟩

/-- Bounds below zero and bounds in the wrong order can be read, and a step with them fails for
another reason than a quantity that does not fit. -/
theorem exists_isRead_not_isSafe :
    (ofText "\x7b\"min\":-10,\"max\":-5\x7d".toList = .ok ⟨-10, -5⟩ ∧
      step ⟨0, 0, 0⟩ ⟨-10, -5⟩ (-7) 0 0 ⟨0, 0, 0⟩ = .error (.degenerate (-7))) ∧
    (ofText "\x7b\"min\":10,\"max\":5\x7d".toList = .ok ⟨10, 5⟩ ∧
      step ⟨0, 0, 0⟩ ⟨10, 5⟩ 7 0 0 ⟨0, 0, 0⟩ = .error (.unordered ⟨10, 5⟩)) ∧
    ¬∀ bounds : Bounds, bounds.IsMade ∨ bounds.IsRead → bounds.IsValid ∧ bounds.IsSafe := by
  have hlow : ofText "\x7b\"min\":-10,\"max\":-5\x7d".toList = .ok ⟨-10, -5⟩ := by rfl
  have hreversed : ofText "\x7b\"min\":10,\"max\":5\x7d".toList = .ok ⟨10, 5⟩ := by rfl
  refine ⟨⟨hlow, rfl⟩, ⟨hreversed, rfl⟩, fun h => ?_⟩
  have hvalid := (h ⟨-10, -5⟩ (.inr ⟨_, hlow⟩)).1
  exact absurd hvalid.1 (by decide)

end Bounds

end Integrity.Temperature
