import Integrity.Proofs.Temperature.ControlLaw

/-! # The control law in whole numbers

A control step is worked out in numbers of 128 bits. It is the step that the same law makes in whole
numbers of any size, unless some quantity on the way does not fit; the first that does not is the
one that is named. -/

namespace Integrity.Temperature

/-! ## The nearest temperature -/

/-- A point within the bounds that is nearer to a value than every other one. -/
def Bounds.IsNearest (bounds : Bounds) (value point : Int) : Prop :=
  bounds.Admits point ∧
    ∀ other, bounds.Admits other → other ≠ point → (point - value).natAbs < (other - value).natAbs

/-- Where a value ends: at the lower bound, at the upper one, or nowhere else. -/
theorem Bounds.clamp_cases (bounds : Bounds) (value : Int) :
    (value ≤ bounds.min ∧ bounds.clamp value = bounds.min) ∨
    (bounds.max ≤ value ∧ bounds.clamp value = bounds.max) ∨
    (bounds.min ≤ value ∧ value ≤ bounds.max ∧ bounds.clamp value = value) := by
  rw [clamp]
  split
  · next hbelow => exact .inl ⟨Int.le_of_lt hbelow, rfl⟩
  · next hbelow =>
    split
    · next habove => exact .inr (.inl ⟨Int.le_of_lt habove, rfl⟩)
    · next habove => exact .inr (.inr ⟨Int.not_lt.mp hbelow, Int.not_lt.mp habove, rfl⟩)

theorem Bounds.isNearest_clamp {bounds : Bounds} (h : bounds.min ≤ bounds.max) (value : Int) :
    bounds.IsNearest value (bounds.clamp value) := by
  refine ⟨Bounds.clamp_mem h value, ?_⟩
  rintro other ⟨hlow, hhigh⟩ hother
  rcases Bounds.clamp_cases bounds value with ⟨hvalue, hclamp⟩ | ⟨hvalue, hclamp⟩ | ⟨-, -, hclamp⟩
  all_goals
    rw [hclamp] at hother ⊢
    omega

/-! ## The law -/

/-- The sum of the signals in whole numbers. -/
def Signals.total (signals : Signals) : Int :=
  signals.emission + signals.backlog + signals.serviceLevel

/-- The control step in whole numbers of any size. -/
def exactStep (gains : Gains) (bounds : Bounds) (temperature integral lastError : Int)
    (signals : Signals) : ControlStep :=
  let error := signals.total
  let integral := integral + error
  let derivative := error - lastError
  let delta := gains.kp * error + gains.ki * integral + gains.kd * derivative
  { error, integral, derivative, delta, temperature := bounds.clamp (temperature + delta) }

/-- The quantities of a control step in whole numbers of any size, in the order of the
computation. -/
def quantities (gains : Gains) (temperature integral lastError : Int) (signals : Signals) :
    List (Stage × Int) :=
  let error := signals.total
  let integral := integral + error
  let derivative := error - lastError
  let p := gains.kp * error
  let i := gains.ki * integral
  let d := gains.kd * derivative
  [(.error, signals.emission + signals.backlog), (.error, error), (.integral, integral),
    (.derivative, derivative), (.proportionalTerm, p), (.integralTerm, i), (.derivativeTerm, d),
    (.delta, p + i), (.delta, p + i + d), (.temperature, temperature + (p + i + d))]

/-! ## Checks one after the other -/

section Checks

variable {α : Type} {outcome : Except ControlFailure α} {items : List (Stage × Int)}

/-- How a computation ends that checks quantities first: the first that does not fit is named. -/
def checked (items : List (Stage × Int)) (outcome : Except ControlFailure α) :
    Except ControlFailure α :=
  match items.find? fun item => ¬FitsWord128 item.2 with
  | some (stage, _) => .error (.overflow stage)
  | none => outcome

theorem fitted_bind {stage : Stage} {n : Int} {next : Int → Except ControlFailure α}
    (h : next n = checked items outcome) :
    (fitted stage n >>= next) = checked ((stage, n) :: items) outcome := by
  by_cases hn : FitsWord128 n
  · have hpassed : checked ((stage, n) :: items) outcome = checked items outcome := by
      simp [checked, hn]
    rw [fitted, if_pos hn, hpassed]
    exact h
  · have hstopped : checked ((stage, n) :: items) outcome = .error (.overflow stage) := by
      simp [checked, hn]
    rw [fitted, if_neg hn, hstopped]
    rfl

theorem checked_eq_ok {a : α} :
    checked items outcome = .ok a ↔ (∀ item ∈ items, FitsWord128 item.2) ∧ outcome = .ok a := by
  have hnone : items.find? (fun item => ¬FitsWord128 item.2) = none ↔
      ∀ item ∈ items, FitsWord128 item.2 := by
    simp [List.find?_eq_none]
  rw [← hnone, checked]
  cases items.find? fun item => ¬FitsWord128 item.2 with
  | none => simp
  | some item => simp

theorem checked_ok_eq_error {a : α} {failure : ControlFailure} :
    checked items (.ok a) = .error failure ↔
      ∃ before stage n after, items = before ++ (stage, n) :: after ∧
        (∀ item ∈ before, FitsWord128 item.2) ∧ ¬FitsWord128 n ∧ failure = .overflow stage := by
  have hsome : ∀ stage n, items.find? (fun item => ¬FitsWord128 item.2) = some (stage, n) ↔
      ¬FitsWord128 n ∧ ∃ before after, items = before ++ (stage, n) :: after ∧
        ∀ item ∈ before, FitsWord128 item.2 := by
    simp [List.find?_eq_some_iff_append]
  rw [checked]
  constructor
  · intro h
    cases hfind : items.find? fun item => ¬FitsWord128 item.2 with
    | none =>
      rw [hfind] at h
      cases h
    | some item =>
      rw [hfind] at h
      cases h
      obtain ⟨hn, before, after, hsplit, hbefore⟩ := (hsome item.1 item.2).mp hfind
      exact ⟨before, item.1, item.2, after, hsplit, hbefore, hn, rfl⟩
  · rintro ⟨before, stage, n, after, hsplit, hbefore, hn, rfl⟩
    rw [(hsome stage n).mpr ⟨hn, before, after, hsplit, hbefore⟩]

end Checks

/-! ## A control step -/

section Step

variable {gains : Gains} {bounds : Bounds} {temperature integral lastError : Int}
  {signals : Signals} {made : ControlStep}

/-- A step that was worked out, unless it has nowhere to end. -/
def landed (bounds : Bounds) (made : ControlStep) : Except ControlFailure ControlStep :=
  if bounds.max < bounds.min then .error (.unordered bounds)
  else if made.temperature ≤ 0 then .error (.degenerate made.temperature)
  else .ok made

theorem landed_eq_ok {landing : ControlStep} :
    landed bounds landing = .ok made ↔
      bounds.min ≤ bounds.max ∧ 0 < landing.temperature ∧ landing = made := by
  rw [landed]
  split
  · next hordered => simp [Int.not_le.mpr hordered]
  · next hordered =>
    split
    · next hpositive => simp [Int.not_lt.mpr hpositive]
    · next hpositive => simp [Int.not_lt.mp hordered, Int.not_le.mp hpositive]

theorem step_eq_checked (gains : Gains) (bounds : Bounds) (temperature integral lastError : Int)
    (signals : Signals) :
    step gains bounds temperature integral lastError signals =
      checked (quantities gains temperature integral lastError signals)
        (landed bounds (exactStep gains bounds temperature integral lastError signals)) := by
  -- One check for each quantity, in the order of the list.
  rw [step, Signals.combined, bind_assoc]
  refine fitted_bind (fitted_bind ?_)
  refine fitted_bind (fitted_bind ?_)
  refine fitted_bind (fitted_bind (fitted_bind ?_))
  refine fitted_bind (fitted_bind ?_)
  refine fitted_bind ?_
  rfl

theorem step_eq_ok :
    step gains bounds temperature integral lastError signals = .ok made ↔
      (∀ item ∈ quantities gains temperature integral lastError signals, FitsWord128 item.2) ∧
        bounds.min ≤ bounds.max ∧ 0 < made.temperature ∧
          made = exactStep gains bounds temperature integral lastError signals := by
  rw [step_eq_checked, checked_eq_ok, landed_eq_ok]
  constructor
  · rintro ⟨hfit, hle, hpositive, rfl⟩
    exact ⟨hfit, hle, hpositive, rfl⟩
  · rintro ⟨hfit, hle, hpositive, rfl⟩
    exact ⟨hfit, hle, hpositive, rfl⟩

theorem landed_exactStep (h : bounds.IsValid) (gains : Gains)
    (temperature integral lastError : Int) (signals : Signals) :
    landed bounds (exactStep gains bounds temperature integral lastError signals) =
      .ok (exactStep gains bounds temperature integral lastError signals) := by
  have hnext : bounds.Admits
      (exactStep gains bounds temperature integral lastError signals).temperature :=
    Bounds.admits_clamp h _
  exact landed_eq_ok.mpr ⟨Int.le_of_lt h.2, Int.lt_of_lt_of_le h.1 hnext.1, rfl⟩

end Step

/-- With valid bounds a control step is made exactly when all its quantities fit. It is then what
the law gives in whole numbers, and the temperature the nearest point within the bounds; otherwise
the first quantity that does not fit is named. -/
theorem step_exact {bounds : Bounds} (h : bounds.IsValid) (gains : Gains)
    (temperature integral lastError : Int) (signals : Signals) :
    let answer := step gains bounds temperature integral lastError signals
    let items := quantities gains temperature integral lastError signals
    let error := signals.emission + signals.backlog + signals.serviceLevel
    ((∃ made, answer = .ok made) ↔ ∀ item ∈ items, FitsWord128 item.2) ∧
    (∀ made, answer = .ok made →
      made.error = error ∧ made.integral = integral + error ∧
        made.derivative = error - lastError ∧
          made.delta = gains.kp * error + gains.ki * (integral + error) +
            gains.kd * (error - lastError) ∧
          bounds.IsNearest (temperature + made.delta) made.temperature) ∧
    ∀ failure, answer = .error failure ↔
      ∃ before stage n after, items = before ++ (stage, n) :: after ∧
        (∀ item ∈ before, FitsWord128 item.2) ∧ ¬FitsWord128 n ∧ failure = .overflow stage := by
  intro answer items error
  have hanswer : answer =
      checked items (.ok (exactStep gains bounds temperature integral lastError signals)) := by
    rw [← landed_exactStep h]
    exact step_eq_checked gains bounds temperature integral lastError signals
  rw [hanswer]
  refine ⟨?_, ?_, fun failure => checked_ok_eq_error⟩
  · simp [checked_eq_ok]
  · intro made hmade
    obtain ⟨-, heq⟩ := checked_eq_ok.mp hmade
    cases heq
    exact ⟨rfl, rfl, rfl, rfl, Bounds.isNearest_clamp (Int.le_of_lt h.2) _⟩

/-- The smallest number has no opposite, and a sum that does not fit is refused although the whole
sum would fit. -/
theorem step_exact_edges :
    let bounds : Bounds := ⟨1, 10⟩
    bounds.IsValid ∧
    step ⟨-1, 0, 0⟩ bounds 5 0 0 ⟨minWord128, 0, 0⟩ = .error (.overflow .proportionalTerm) ∧
    step ⟨0, 0, 0⟩ bounds 5 0 0 ⟨maxWord128, 1, -2⟩ = .error (.overflow .error) := by
  intro bounds
  have hvalid : bounds.IsValid := by decide
  have hopposite := (step_exact hvalid ⟨-1, 0, 0⟩ 5 0 0 ⟨minWord128, 0, 0⟩).2.2
  have hsum := (step_exact hvalid ⟨0, 0, 0⟩ 5 0 0 ⟨maxWord128, 1, -2⟩).2.2
  refine ⟨hvalid, (hopposite _).mpr ?_, (hsum _).mpr ?_⟩
  · exact ⟨[(.error, minWord128), (.error, minWord128), (.integral, minWord128),
      (.derivative, minWord128)], .proportionalTerm, -minWord128, _, rfl, by decide, by decide, rfl⟩
  · exact ⟨[], .error, maxWord128 + 1, _, rfl, by decide, by decide, rfl⟩

end Integrity.Temperature
