import Integrity.Proofs.Simulation.Replay

/-! # Replays as folds of the control law

A replay drives a controller, behind its authority and with everything that it tells. What comes out
is what the control law alone makes of the signals one after the other, where it goes on from the
step before when it refuses one. So refused signals can be deleted, and what comes later does not
matter. -/

namespace Integrity.Simulation

open Temperature (Bounds ControlFailure ControlStep Controller Gains Signals step)

/-! ## The control law alone -/

/-- What the control law goes by from one step to the next. -/
structure Memory where
  temperature : Int
  integral : Int
  lastError : Int

namespace Memory

variable (gains : Gains) (bounds : Bounds)

def stepOn (memory : Memory) (signals : Signals) : Except ControlFailure ControlStep :=
  step gains bounds memory.temperature memory.integral memory.lastError signals

/-- The memory after signals, which is the one before when they are refused. -/
def after (memory : Memory) (signals : Signals) : Memory :=
  match memory.stepOn gains bounds signals with
  | .ok made => ⟨made.temperature, made.integral, made.error⟩
  | .error _ => memory

/-- Why signals are refused, if they are. -/
def refusal? (memory : Memory) (signals : Signals) : Option ControlFailure :=
  match memory.stepOn gains bounds signals with
  | .ok _ => none
  | .error cause => some cause

variable {gains bounds} {memory : Memory} {signals : Signals}

theorem after_of_refusal {cause : ControlFailure}
    (h : memory.refusal? gains bounds signals = some cause) :
    memory.after gains bounds signals = memory := by
  rw [refusal?] at h
  rw [after]
  cases hstep : memory.stepOn gains bounds signals with
  | ok made => simp [hstep] at h
  | error cause => rfl

theorem refusal?_eq_none_iff :
    memory.refusal? gains bounds signals = none ↔
      ∃ made, memory.stepOn gains bounds signals = .ok made := by
  rw [refusal?]
  cases memory.stepOn gains bounds signals <;> simp

theorem refusal?_eq_some_iff {cause : ControlFailure} :
    memory.refusal? gains bounds signals = some cause ↔
      memory.stepOn gains bounds signals = .error cause := by
  rw [refusal?]
  cases memory.stepOn gains bounds signals <;> simp

theorem admits_after (gains : Gains) (hvalid : bounds.IsValid)
    (h : bounds.Admits memory.temperature) (signals : Signals) :
    bounds.Admits (memory.after gains bounds signals).temperature := by
  have hends := Temperature.step_ends hvalid gains memory.temperature memory.integral
    memory.lastError signals
  rw [after, stepOn]
  cases hstep : step gains bounds memory.temperature memory.integral memory.lastError signals with
  | ok made =>
    rw [hstep] at hends
    exact hends
  | error cause => exact h

end Memory

/-! ## The controller of a replay -/

namespace Replay

/-- A controller that goes on from another memory. -/
def recalling (c : Controller) (memory : Memory) : Controller :=
  { c with
    temperature := memory.temperature
    integral := memory.integral
    lastError := memory.lastError }

variable {c : Controller}

theorem advance_of_refused {signals : Signals} {cause : ControlFailure}
    (hheld : c.authority.isHeldBy operator = true) (hcause : c.stepOn signals = .error cause) :
    advance c signals = (c, some (.control cause)) := by
  have hauthority : c.ensureAuthority operator = .ok () := if_pos hheld
  have hrun : (Controller.tick operator signals).run (.start c ()) =
      (.error (.control cause), Controller.afterRefusal (.start c ())) := by
    rw [Controller.run_tick]
    simp only [Site.start, hauthority, hcause]
  rw [advance, hrun]
  rfl

/-- A step changes the memory of a controller and nothing else. -/
theorem advance_recalling (hheld : c.authority.isHeldBy operator = true) (memory : Memory)
    (signals : Signals) :
    advance (recalling c memory) signals =
      (recalling c (memory.after c.gains c.bounds signals),
        (memory.refusal? c.gains c.bounds signals).map .control) := by
  rw [Memory.after, Memory.refusal?]
  cases hstep : memory.stepOn c.gains c.bounds signals with
  | ok made => exact advance_of_stepOn hheld hstep
  | error cause => exact advance_of_refused hheld hstep

/-- What a replay says of signals when the control law meets them with this memory. -/
def outcomeOf (gains : Gains) (bounds : Bounds) (index : Nat) (memory : Memory)
    (signals : Signals) : Outcome where
  index := index
  temperature := (memory.after gains bounds signals).temperature
  integral := (memory.after gains bounds signals).integral
  rejected := (memory.refusal? gains bounds signals).map .control

theorem rejected_outcomeOf_of_none (index : Nat) {gains : Gains} {bounds : Bounds}
    {memory : Memory} {signals : Signals} (h : memory.refusal? gains bounds signals = none) :
    (outcomeOf gains bounds index memory signals).rejected = none := by
  rw [outcomeOf, h, Option.map_none]

theorem rejected_outcomeOf_of_some (index : Nat) {gains : Gains} {bounds : Bounds}
    {memory : Memory} {signals : Signals} {cause : ControlFailure}
    (h : memory.refusal? gains bounds signals = some cause) :
    (outcomeOf gains bounds index memory signals).rejected = some (.control cause) := by
  rw [outcomeOf, h, Option.map_some]

theorem outcomes_cons (hheld : c.authority.isHeldBy operator = true) (memory : Memory)
    (index : Nat) (signals : Signals) (rest : List Signals) :
    outcomes (recalling c memory) index (signals :: rest) =
      outcomeOf c.gains c.bounds index memory signals ::
        outcomes (recalling c (memory.after c.gains c.bounds signals)) (index + 1) rest := by
  rw [outcomes, advance_recalling hheld]
  rfl

theorem getElem?_outcomes (hheld : c.authority.isHeldBy operator = true) (memory : Memory)
    (index : Nat) (steps : List Signals) (i : Nat) :
    (outcomes (recalling c memory) index steps)[i]? =
      steps[i]?.map fun signals => outcomeOf c.gains c.bounds (index + i)
        ((steps.take i).foldl (Memory.after c.gains c.bounds) memory) signals := by
  induction steps generalizing memory index i with
  | nil => simp [outcomes]
  | cons signals rest ih =>
    rw [outcomes_cons hheld]
    cases i with
    | zero => simp
    | succ i => simp [ih, Nat.add_assoc, Nat.add_comm 1]

theorem admits_outcomes (hheld : c.authority.isHeldBy operator = true)
    (hvalid : c.bounds.IsValid) (memory : Memory) (h : c.bounds.Admits memory.temperature)
    (index : Nat) (steps : List Signals) :
    ∀ outcome ∈ outcomes (recalling c memory) index steps,
      c.bounds.Admits outcome.temperature := by
  induction steps generalizing memory index with
  | nil => exact nofun
  | cons signals rest ih =>
    have hafter := Memory.admits_after c.gains hvalid h signals
    rw [outcomes_cons hheld, List.forall_mem_cons]
    exact ⟨hafter, ih _ hafter (index + 1)⟩

theorem outcomes_append_take (c : Controller) (index : Nat) (first second : List Signals) :
    (outcomes c index (first ++ second)).take first.length = outcomes c index first := by
  induction first generalizing c index with
  | nil => rfl
  | cons signals rest ih => simp [outcomes, ih]

/-! ## Refused signals -/

/-- The signals that were not refused. -/
def accepted (steps : List Signals) (outcomes : List Outcome) : List Signals :=
  ((steps.zip outcomes).filter fun pair => pair.2.rejected.isNone).map Prod.fst

/-- The outcomes of signals that were not refused, numbered from `place` on. -/
def standing (place : Nat) (outcomes : List Outcome) : List Outcome :=
  (outcomes.filter fun outcome => outcome.rejected.isNone).mapIdx
    fun i outcome => { outcome with index := place + i }

section Kept

variable {outcome : Outcome} (signals : Signals) (steps : List Signals) (place : Nat)
  (outcomes : List Outcome)

theorem accepted_cons_of_none (h : outcome.rejected = none) :
    accepted (signals :: steps) (outcome :: outcomes) = signals :: accepted steps outcomes := by
  simp [accepted, h]

theorem accepted_cons_of_some {cause : Temperature.Error} (h : outcome.rejected = some cause) :
    accepted (signals :: steps) (outcome :: outcomes) = accepted steps outcomes := by
  simp [accepted, h]

theorem standing_cons_of_none (h : outcome.rejected = none) :
    standing place (outcome :: outcomes) =
      { outcome with index := place } :: standing (place + 1) outcomes := by
  simp [standing, h, Nat.add_assoc, Nat.add_comm 1]

theorem standing_cons_of_some {cause : Temperature.Error} (h : outcome.rejected = some cause) :
    standing place (outcome :: outcomes) = standing place outcomes := by
  simp [standing, h]

end Kept

/-- Refused signals leave no trace in what comes after them. -/
theorem outcomes_accepted (hheld : c.authority.isHeldBy operator = true) (memory : Memory)
    (index place : Nat) (steps : List Signals) :
    outcomes (recalling c memory) place
        (accepted steps (outcomes (recalling c memory) index steps)) =
      standing place (outcomes (recalling c memory) index steps) := by
  induction steps generalizing memory index place with
  | nil => rfl
  | cons signals rest ih =>
    have ih := ih (memory.after c.gains c.bounds signals) (index + 1)
    rw [outcomes_cons hheld]
    cases hrefusal : memory.refusal? c.gains c.bounds signals with
    | none =>
      have hnone := rejected_outcomeOf_of_none index hrefusal
      rw [accepted_cons_of_none _ _ _ hnone, standing_cons_of_none _ _ hnone,
        outcomes_cons hheld, ih]
      rfl
    | some cause =>
      -- The rest starts from the memory that there was before the refused signals.
      have hsome := rejected_outcomeOf_of_some index hrefusal
      rw [Memory.after_of_refusal hrefusal] at ih ⊢
      rw [accepted_cons_of_some _ _ _ hsome, standing_cons_of_some _ _ hsome, ih]

end Replay

/-! ## Replays -/

/-- What a replay says of signals that the control law meets with the memory `met` and leaves with
the memory `later`. -/
structure Replay.Outcome.Tells (outcome : Outcome) (gains : Gains) (bounds : Bounds)
    (met later : Memory) (signals : Signals) : Prop where
  temperature : outcome.temperature = later.temperature
  integral : outcome.integral = later.integral
  accepted : outcome.rejected = none ↔ ∃ made, met.stepOn gains bounds signals = .ok made
  refused : ∀ cause, met.stepOn gains bounds signals = .error cause →
    outcome.rejected.map Temperature.Error.message = some cause.message

theorem Replay.tells_outcomeOf (gains : Gains) (bounds : Bounds) (index : Nat) (memory : Memory)
    (signals : Signals) :
    (outcomeOf gains bounds index memory signals).Tells gains bounds memory
      (memory.after gains bounds signals) signals := by
  constructor
  case temperature => rfl
  case integral => rfl
  case accepted => simp [outcomeOf, Memory.refusal?_eq_none_iff]
  case refused =>
    intro cause hcause
    rw [rejected_outcomeOf_of_some index (Memory.refusal?_eq_some_iff.mpr hcause)]
    rfl

theorem replay_eq_outcomes {config : Config} (h : config.temperature.IsBounded)
    (steps : List Signals) :
    replay config steps = .ok (Replay.outcomes (config.controller operator) 0 steps) := by
  have hmake : Controller.make operator config.temperatureSettings =
      .ok (config.controller operator) :=
    Controller.make_temperatureSettings.mpr ⟨h, rfl⟩
  rw [replay, hmake]

/-- A replay from a configuration whose temperature starts within valid bounds has an outcome for
each of its signals, with their places. Its temperatures and sums of errors are those of the control
law folded over the signals, from the state before when it refuses some, and it says why when it
does. All temperatures lie within the bounds. Without the refused signals the replay is the same
but for the outcomes of these and the places, and the first signals have the same outcomes without
those that come after them. -/
theorem replay_eq_fold (config : Config) (h : config.temperature.IsBounded)
    (steps : List Signals) :
    let settings := config.temperatureSettings
    let bounds : Bounds := ⟨settings.min, settings.max⟩
    let memory := fun n =>
      (steps.take n).foldl (Memory.after settings.gains bounds) ⟨settings.initial, 0, 0⟩
    ∃ outcomes : List Replay.Outcome,
      replay config steps = .ok outcomes ∧ outcomes.length = steps.length ∧
      (∀ i signals, steps[i]? = some signals → ∃ outcome : Replay.Outcome,
        outcomes[i]? = some outcome ∧ outcome.index = i ∧
          outcome.Tells settings.gains bounds (memory i) (memory (i + 1)) signals) ∧
      (∀ outcome ∈ outcomes, bounds.Admits outcome.temperature) ∧
      replay config (Replay.accepted steps outcomes) = .ok (Replay.standing 0 outcomes) ∧
      ∀ first second, steps = first ++ second →
        replay config first = .ok (outcomes.take first.length) := by
  intro settings bounds memory
  obtain ⟨hvalid, hadmits⟩ := Config.TemperatureSection.isBounded_iff.mp h
  let c := config.controller operator
  have hheld : c.authority.isHeldBy operator = true := isHeldBy_operator
  refine ⟨Replay.outcomes c 0 steps, replay_eq_outcomes h steps, Replay.length_outcomes _ _ _,
    ?_, ?_, ?_, ?_⟩
  · intro i signals hsignals
    refine ⟨Replay.outcomeOf settings.gains bounds i (memory i) signals, ?_, rfl, ?_⟩
    · have hget := Replay.getElem?_outcomes hheld ⟨settings.initial, 0, 0⟩ 0 steps i
      rw [hsignals, Option.map_some, Nat.zero_add] at hget
      exact hget
    · have hlater : memory (i + 1) = (memory i).after settings.gains bounds signals := by
        simp [memory, List.take_add_one, hsignals]
      rw [hlater]
      exact Replay.tells_outcomeOf _ _ _ _ _
  · exact Replay.admits_outcomes hheld hvalid ⟨settings.initial, 0, 0⟩ hadmits 0 steps
  · rw [replay_eq_outcomes h]
    exact congrArg Except.ok (Replay.outcomes_accepted hheld ⟨settings.initial, 0, 0⟩ 0 0 steps)
  · rintro first second rfl
    rw [replay_eq_outcomes h, Replay.outcomes_append_take]

/-- Two of five signals are refused, for the sum of the signals and for the sum of errors, and the
change of the error is taken from the last signals that were not. -/
theorem replay_eq_fold_overflows :
    let temperature :=
      { Config.TemperatureSection.default with minBound := 50, maxBound := 150, kd := 1 }
    let config := { Config.default with temperature }
    let steps : List Signals := [⟨10, 0, 0⟩, ⟨Temperature.maxWord128, 1, 0⟩, ⟨-5, 0, 0⟩,
      ⟨Temperature.maxWord128, 0, 0⟩, ⟨200, 0, 0⟩]
    let told : List Replay.Outcome := [⟨0, 120, 10, none⟩,
      ⟨1, 120, 10, some (.control (.overflow .error))⟩, ⟨2, 100, 5, none⟩,
      ⟨3, 100, 5, some (.control (.overflow .integral))⟩, ⟨4, 150, 205, none⟩]
    config.temperature.IsBounded ∧ replay config steps = .ok told ∧
      replay config [⟨10, 0, 0⟩, ⟨-5, 0, 0⟩, ⟨200, 0, 0⟩] =
        .ok [⟨0, 120, 10, none⟩, ⟨1, 100, 5, none⟩, ⟨2, 150, 205, none⟩] := by
  intro temperature config steps told
  have hbounded : config.temperature.IsBounded := ⟨by decide, by decide, by decide, by decide⟩
  have htold : Replay.outcomes (config.controller operator) 0 steps = told := by decide +kernel
  have hreplay : replay config steps = .ok told := by rw [replay_eq_outcomes hbounded, htold]
  obtain ⟨outcomes, houtcomes, -, -, -, haccepted, -⟩ := replay_eq_fold config hbounded steps
  obtain rfl := Except.ok.inj (houtcomes.symm.trans hreplay)
  exact ⟨hbounded, hreplay, haccepted⟩

end Integrity.Simulation
