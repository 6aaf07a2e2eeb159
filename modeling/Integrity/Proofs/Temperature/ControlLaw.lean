import Integrity.Temperature.ControlLaw

/-! # What the control law may answer

With valid bounds a control step either stays within them or is refused because some quantity does
not fit. -/

namespace Integrity.Temperature

/-! ## Bounds -/

/-- A temperature between the bounds. -/
def Bounds.Admits (bounds : Bounds) (value : Int) : Prop :=
  bounds.min ≤ value ∧ value ≤ bounds.max

theorem Bounds.make_eq_ok {min max : Int} {bounds : Bounds} :
    Bounds.make min max = .ok bounds ↔ bounds = ⟨min, max⟩ ∧ bounds.IsValid := by
  simp only [Bounds.make]
  constructor
  · intro h
    split at h
    · next hvalid =>
        cases h
        exact ⟨rfl, hvalid⟩
    · cases h
  · rintro ⟨rfl, hvalid⟩
    rw [if_pos hvalid]

theorem Bounds.check_eq_ok {bounds : Bounds} {value : Int} :
    bounds.check value = .ok () ↔ 0 < value ∧ bounds.Admits value := by
  simp only [Bounds.check, Bounds.Admits]
  constructor
  · intro h
    split at h
    · cases h
    · omega
  · intro h
    rw [if_neg (by omega)]

theorem Bounds.admits_clamp {bounds : Bounds} (h : bounds.IsValid) (value : Int) :
    bounds.Admits (bounds.clamp value) :=
  Bounds.clamp_mem (Int.le_of_lt h.2) value

/-! ## How a computation ends -/

/-- What holds of a result, or else of the failure. -/
def Ends {ε α : Type} (answer : Except ε α) (good : α → Prop) (bad : ε → Prop) : Prop :=
  match answer with
  | .ok a => good a
  | .error e => bad e

theorem Ends.bind {ε α β : Type} {answer : Except ε α} {next : α → Except ε β}
    {middle : α → Prop} {good : β → Prop} {bad : ε → Prop} (hanswer : Ends answer middle bad)
    (hnext : ∀ a, middle a → Ends (next a) good bad) : Ends (answer >>= next) good bad := by
  cases answer with
  | error e => exact hanswer
  | ok a => exact hnext a hanswer

theorem Ends.map {ε α β : Type} {answer : Except ε α} {good : α → Prop} {bad : ε → Prop}
    (h : Ends answer good bad) {f : α → β} {fine : β → Prop} (hf : ∀ a, good a → fine (f a)) :
    Ends (answer.map f) fine bad := by
  cases answer with
  | error e => exact h
  | ok a => exact hf a h

theorem ends_trivially {ε α : Type} (answer : Except ε α) :
    Ends answer (fun _ => True) fun _ => True := by
  cases answer <;> trivial

/-- Some quantity of the control law did not fit. -/
def ControlFailure.IsOverflow (failure : ControlFailure) : Prop :=
  ∃ stage, failure = .overflow stage

theorem fitted_ends (stage : Stage) (n : Int) :
    Ends (fitted stage n) (· = n) ControlFailure.IsOverflow := by
  simp only [fitted]
  split
  · exact rfl
  · exact ⟨stage, rfl⟩

theorem combined_ends (signals : Signals) :
    Ends signals.combined (· = signals.emission + signals.backlog + signals.serviceLevel)
      ControlFailure.IsOverflow := by
  refine (fitted_ends _ _).bind ?_
  rintro sum rfl
  exact fitted_ends _ _

/-- A control step with ordered positive bounds stays within them, or some quantity does not fit. -/
theorem step_ends_of_le {bounds : Bounds} (hpositive : 0 < bounds.min)
    (hle : bounds.min ≤ bounds.max) (gains : Gains) (temperature integral lastError : Int)
    (signals : Signals) :
    Ends (step gains bounds temperature integral lastError signals)
      (fun made => bounds.Admits made.temperature) ControlFailure.IsOverflow := by
  refine (combined_ends signals).bind fun error _ => ?_
  refine (fitted_ends _ _).bind fun integral _ => ?_
  refine (fitted_ends _ _).bind fun derivative _ => ?_
  refine (fitted_ends _ _).bind fun p _ => ?_
  refine (fitted_ends _ _).bind fun i _ => ?_
  refine (fitted_ends _ _).bind fun d _ => ?_
  refine (fitted_ends _ _).bind fun sum _ => ?_
  refine (fitted_ends _ _).bind fun delta _ => ?_
  refine (fitted_ends _ _).bind fun target _ => ?_
  have hnext : bounds.Admits (bounds.clamp target) := Bounds.clamp_mem hle target
  have hordered : ¬bounds.max < bounds.min := Int.not_lt.mpr hle
  have hclamp : ¬bounds.clamp target ≤ 0 := by
    have hlow := hnext.1
    omega
  rw [if_neg hordered, if_neg hclamp]
  exact hnext

theorem step_ends {bounds : Bounds} (h : bounds.IsValid) (gains : Gains)
    (temperature integral lastError : Int) (signals : Signals) :
    Ends (step gains bounds temperature integral lastError signals)
      (fun made => bounds.Admits made.temperature) ControlFailure.IsOverflow :=
  step_ends_of_le h.1 (Int.le_of_lt h.2) gains temperature integral lastError signals

end Integrity.Temperature
