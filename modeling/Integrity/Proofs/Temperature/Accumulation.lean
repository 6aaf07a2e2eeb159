import Integrity.Proofs.Operation.Run
import Integrity.Proofs.Temperature.Exact
import Integrity.Proofs.Temperature.Step
import Mathlib.Tactic.Ring

/-! # What a run of control steps adds up to

The sum of errors and the last error are written by control steps alone, and only by those that are
made. What they are after a run is therefore told by the signals of these steps; and while no step
meets a bound, so is the temperature. -/

namespace Integrity.Temperature

open Operation

/-! ## The control steps of a run -/

/-- The signals and the outcome of an operation, if it is a control step that was made. -/
def Command.made? : Command → Except Error Answer → Option (Signals × ControlStep)
  | .tick signals, .ok (some made) => some (signals, made)
  | _, _ => none

/-- What became of the control step, if an operation of a run is one that was made. -/
def madeBy? (entry : Site Controller Unit × Address × Command) : Option (Signals × ControlStep) :=
  entry.2.2.made? ((Controller.perform entry.2.1 entry.2.2).run entry.1).1

def ticks (site : Site Controller Unit) (moves : List (Address × Command)) :
    List (Signals × ControlStep) :=
  (site.history (fun move => Controller.perform move.1 move.2) moves).filterMap madeBy?

def errorsOf (steps : List (Signals × ControlStep)) : List Int :=
  steps.map fun tick => tick.1.total

theorem errorsOf_cons (signals : Signals) (made : ControlStep)
    (steps : List (Signals × ControlStep)) :
    errorsOf ((signals, made) :: steps) = signals.total :: errorsOf steps :=
  rfl

theorem ticks_cons_of_made {site : Site Controller Unit} {move : Address × Command}
    {tick : Signals × ControlStep} (h : madeBy? (site, move) = some tick)
    (rest : List (Address × Command)) :
    ticks site (move :: rest) =
      tick :: ticks ((Controller.perform move.1 move.2).run site).2 rest := by
  rw [ticks, Site.history, List.filterMap_cons, h]
  rfl

theorem ticks_cons_of_aside {site : Site Controller Unit} {move : Address × Command}
    (h : madeBy? (site, move) = none) (rest : List (Address × Command)) :
    ticks site (move :: rest) = ticks ((Controller.perform move.1 move.2).run site).2 rest := by
  rw [ticks, Site.history, List.filterMap_cons, h]
  rfl

theorem made?_error (command : Command) (cause : Error) : command.made? (.error cause) = none := by
  cases command <;> rfl

theorem made?_none (command : Command) : command.made? (.ok none) = none := by
  cases command <;> rfl

/-- An operation makes a control step, or else leaves the sum of errors and the last error. -/
theorem Step.ticked_or_aside {caller : Address} {command : Command} {answer : Except Error Answer}
    {before after : Site Controller Unit} (h : Step caller before command answer after) :
    (∃ signals made, command.made? answer = some (signals, made) ∧
      before.state.stepOn signals = .ok made ∧ after.state = before.state.ticked made) ∨
    (command.made? answer = none ∧ after.state.integral = before.state.integral ∧
      after.state.lastError = before.state.lastError) := by
  cases h with
  | refused _ cause => exact .inr ⟨made?_error command cause, rfl, rfl⟩
  | amended hcommand _ =>
    refine .inr ⟨made?_none command, ?_⟩
    cases command <;> cases hcommand <;> exact ⟨rfl, rfl⟩
  | bounded _ _ _ => exact .inr ⟨rfl, rfl, rfl⟩
  | set _ _ => exact .inr ⟨rfl, rfl, rfl⟩
  | overridden _ _ => exact .inr ⟨rfl, rfl, rfl⟩
  | @ticked signals made _ hmade => exact .inl ⟨signals, made, rfl, hmade, rfl⟩
  | rejected _ _ => exact .inr ⟨rfl, rfl, rfl⟩

theorem madeBy?_or_aside (site : Site Controller Unit) (move : Address × Command) :
    let after := ((Controller.perform move.1 move.2).run site).2
    (∃ signals made, madeBy? (site, move) = some (signals, made) ∧
      site.state.stepOn signals = .ok made ∧ after.state = site.state.ticked made) ∨
    (madeBy? (site, move) = none ∧ after.state.integral = site.state.integral ∧
      after.state.lastError = site.state.lastError) :=
  (perform_step move.1 move.2 site).ticked_or_aside

/-! ## Errors -/

section Errors

variable {c middle later : Controller} {steps : List (Signals × ControlStep)}

/-- What the signals of control steps say of the steps and of the controller after them. -/
structure Controller.Accumulates (c : Controller) (steps : List (Signals × ControlStep))
    (later : Controller) : Prop where
  integral : later.integral = c.integral + (errorsOf steps).sum
  lastError : later.lastError = (errorsOf steps).getLastD c.lastError
  errors : steps.map (fun tick => tick.2.error) = errorsOf steps
  derivatives : steps.map (fun tick => tick.2.derivative) =
    List.zipWith (· - ·) (errorsOf steps) (c.lastError :: errorsOf steps)

theorem Controller.accumulates_nil (c : Controller) : c.Accumulates [] c :=
  ⟨(Int.add_zero _).symm, rfl, rfl, rfl⟩

theorem Controller.Accumulates.ticked {signals : Signals} {made : ControlStep}
    (hmade : c.stepOn signals = .ok made) (h : (c.ticked made).Accumulates steps later) :
    c.Accumulates ((signals, made) :: steps) later := by
  obtain ⟨-, -, -, heq⟩ := step_eq_ok.mp hmade
  subst heq
  obtain ⟨hintegral, hlastError, herrors, hderivatives⟩ := h
  constructor
  case integral =>
    rw [hintegral, errorsOf_cons, List.sum_cons, ← Int.add_assoc]
    rfl
  case lastError =>
    rw [hlastError, errorsOf_cons, List.getLastD_cons]
    rfl
  case errors =>
    rw [List.map_cons, herrors, errorsOf_cons]
    rfl
  case derivatives =>
    rw [List.map_cons, hderivatives, errorsOf_cons]
    rfl

theorem Controller.Accumulates.aside (hintegral : middle.integral = c.integral)
    (hlastError : middle.lastError = c.lastError) (h : middle.Accumulates steps later) :
    c.Accumulates steps later := by
  refine ⟨?_, ?_, h.errors, ?_⟩
  · rw [h.integral, hintegral]
  · rw [h.lastError, hlastError]
  · rw [h.derivatives, hlastError]

end Errors

/-- Whatever else a run does, the signals of its control steps say what they add up to. -/
theorem accumulates_play (site : Site Controller Unit) (moves : List (Address × Command)) :
    site.state.Accumulates (ticks site moves)
      (site.play (fun move => Controller.perform move.1 move.2) moves).state := by
  -- Each operation is put in front, where the sums of the rest start from what it leaves.
  induction moves generalizing site with
  | nil => exact Controller.accumulates_nil site.state
  | cons move rest ih =>
    have hrest := ih ((Controller.perform move.1 move.2).run site).2
    rw [Site.play_cons]
    rcases madeBy?_or_aside site move with ⟨signals, made, htick, hmade, hafter⟩ |
        ⟨htick, hintegral, hlastError⟩
    · rw [ticks_cons_of_made htick]
      rw [hafter] at hrest
      exact hrest.ticked hmade
    · rw [ticks_cons_of_aside htick]
      exact hrest.aside hintegral hlastError

/-! ## The temperature between the bounds -/

/-- The sum of errors after each of some errors. -/
def runningSums (start : Int) : List Int → List Int
  | [] => []
  | error :: rest => (start + error) :: runningSums (start + error) rest

/-- How far the three terms move the temperature over some errors. -/
def Gains.drift (gains : Gains) (integral lastError : Int) (errors : List Int) : Int :=
  gains.kp * errors.sum + gains.ki * (runningSums integral errors).sum +
    gains.kd * (errors.getLastD lastError - lastError)

/-- The changes of the error add up to the change from the first to the last. -/
theorem Gains.drift_cons (gains : Gains) (integral lastError error : Int) (rest : List Int) :
    gains.drift integral lastError (error :: rest) =
      gains.kp * error + gains.ki * (integral + error) + gains.kd * (error - lastError) +
        gains.drift (integral + error) error rest := by
  simp only [drift, runningSums, List.sum_cons, List.getLastD_cons]
  ring

/-- A control step with these gains that no bound stops, or something that leaves the temperature as
it is. -/
def Undisturbed (gains : Gains) (entry : Site Controller Unit × Address × Command) : Prop :=
  (∀ tick ∈ madeBy? entry, entry.1.state.gains = gains ∧
    tick.2.temperature = entry.1.state.temperature + tick.2.delta) ∧
  (madeBy? entry = none →
    ((Controller.perform entry.2.1 entry.2.2).run entry.1).2.state.temperature =
      entry.1.state.temperature)

instance (gains : Gains) (entry : Site Controller Unit × Address × Command) :
    Decidable (Undisturbed gains entry) :=
  inferInstanceAs (Decidable (_ ∧ _))

/-- While nothing disturbs the control steps, their signals tell the temperature. -/
theorem temperature_play {gains : Gains} {site : Site Controller Unit}
    {moves : List (Address × Command)}
    (h : ∀ entry ∈ site.history (fun move => Controller.perform move.1 move.2) moves,
      Undisturbed gains entry) :
    (site.play (fun move => Controller.perform move.1 move.2) moves).state.temperature =
      site.state.temperature +
        gains.drift site.state.integral site.state.lastError (errorsOf (ticks site moves)) := by
  induction moves generalizing site with
  | nil =>
    have hnone : gains.drift site.state.integral site.state.lastError [] = 0 := by
      simp [Gains.drift, runningSums]
    exact (hnone ▸ Int.add_zero _).symm
  | cons move rest ih =>
    rw [Site.history, List.forall_mem_cons] at h
    obtain ⟨⟨hmoved, hkept⟩, hrest⟩ := h
    rw [Site.play_cons, ih hrest]
    rcases madeBy?_or_aside site move with ⟨signals, made, htick, hmade, hafter⟩ |
        ⟨htick, hintegral, hlastError⟩
    · obtain ⟨rfl, htemperature⟩ := hmoved (signals, made) htick
      obtain ⟨-, -, -, heq⟩ := step_eq_ok.mp hmade
      subst heq
      rw [ticks_cons_of_made htick, errorsOf_cons, Gains.drift_cons, hafter, ← Int.add_assoc]
      exact congrArg (· + _) htemperature
    · rw [ticks_cons_of_aside htick, hintegral, hlastError, hkept htick]

/-! ## From the start of a controller -/

theorem zero_of_make {authority : Address} {settings : Settings} {c : Controller}
    (h : Controller.make authority settings = .ok c) : c.integral = 0 ∧ c.lastError = 0 := by
  simp only [Controller.make] at h
  split at h
  · cases h
  · split at h
    · cases h
    · cases h
      exact ⟨rfl, rfl⟩

/-- After any run the control steps that were made say what the sum of errors and the last error
are, and each of them took the change of the error from the one before it. From there on, the
temperature is that of the three terms for as long as the gains stay the same and only control steps
move it, none of which a bound stops. -/
theorem closedForm_play {authority : Address} {settings : Settings} {c : Controller}
    (h : Controller.make authority settings = .ok c) (moves : List (Address × Command)) :
    let perform := fun move : Address × Command => Controller.perform move.1 move.2
    let steps := ticks (.start c ()) moves
    let site := (Site.start c ()).play perform moves
    (site.state.integral = (errorsOf steps).sum ∧
      site.state.lastError = (errorsOf steps).getLastD 0 ∧
      steps.map (fun tick => tick.2.error) = errorsOf steps ∧
      steps.map (fun tick => tick.2.derivative) =
        List.zipWith (· - ·) (errorsOf steps) (0 :: errorsOf steps)) ∧
    ∀ (gains : Gains) (stretch : List (Address × Command)),
      (∀ entry ∈ site.history perform stretch, Undisturbed gains entry) →
        let start := site.state
        let errors := errorsOf (ticks site stretch)
        (site.play perform stretch).state.temperature =
          start.temperature +
            (gains.kp * errors.sum + gains.ki * (runningSums start.integral errors).sum +
              gains.kd * (errors.getLastD start.lastError - start.lastError)) := by
  intro perform steps site
  refine ⟨?_, fun gains stretch hstretch => temperature_play hstretch⟩
  obtain ⟨hintegral, hlastError⟩ := zero_of_make h
  have hrun : c.Accumulates steps site.state := accumulates_play (.start c ()) moves
  refine ⟨?_, ?_, hrun.errors, ?_⟩
  · rw [hrun.integral, hintegral, Int.zero_add]
  · rw [hrun.lastError, hlastError]
  · rw [hrun.derivatives, hlastError]

/-- Steps that a bound stops, a stranger's step and new settings come first. In the stretch after
them an overflow and a role's temperature come between two steps. -/
theorem closedForm_play_stretch :
    let holder := Address.filled 0xA1
    let c : Controller := ⟨⟨holder⟩, 100, ⟨1, 1000⟩, ⟨1, 0, 0⟩, 0, 0, Table.empty⟩
    let perform := fun move : Address × Command => Controller.perform move.1 move.2
    let moves : List (Address × Command) := [
      (holder, .tick ⟨2000, 0, 0⟩),
      (Address.filled 0x5E, .tick ⟨7, 0, 0⟩),
      (holder, .tick ⟨-2000, 5, 0⟩),
      (holder, .tick ⟨1, 1, 1⟩),
      (holder, .setGains ⟨2, 3, 5⟩),
      (holder, .setTemperature 100),
      (holder, .setBounds 50 500)]
    let stretch : List (Address × Command) := [
      (holder, .tick ⟨1, 2, 3⟩),
      (holder, .tick ⟨maxWord128, 0, 0⟩),
      (holder, .setOverride .agent 60),
      (holder, .tick ⟨-4, 0, 0⟩)]
    let site := (Site.start c ()).play perform moves
    Controller.make holder Settings.default = .ok c ∧
      errorsOf (ticks (.start c ()) moves) = [2000, -1995, 3] ∧ site.state.integral = 8 ∧
      errorsOf (ticks site stretch) = [6, -4] ∧
      (∀ entry ∈ site.history perform stretch, Undisturbed ⟨2, 3, 5⟩ entry) ∧
      (site.play perform stretch).state.temperature =
        100 + (2 * 2 + 3 * (14 + 10) + 5 * (-4 - 3)) := by
  intro holder c perform moves stretch site
  have hmake : Controller.make holder Settings.default = .ok c := rfl
  have hstretch : ∀ entry ∈ site.history perform stretch, Undisturbed ⟨2, 3, 5⟩ entry := by
    decide +kernel
  obtain ⟨⟨hintegral, -⟩, hclosed⟩ := closedForm_play hmake moves
  refine ⟨hmake, by decide +kernel, ?_, by decide +kernel, hstretch, ?_⟩
  · rw [hintegral]
    decide +kernel
  · rw [hclosed ⟨2, 3, 5⟩ stretch hstretch]
    decide +kernel

end Integrity.Temperature
