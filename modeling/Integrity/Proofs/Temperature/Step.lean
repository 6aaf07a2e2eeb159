import Integrity.Proofs.Temperature.ControlLaw
import Integrity.Temperature.Controller

/-! # Steps of the temperature controller

What an operation can do, and to which caller. Only a tick leaves a mark when it fails: an authority
whose control step is refused finds the refusal counted. -/

namespace Integrity.Temperature

open Operation

namespace Controller

/-- The controller with other bounds, and all temperatures moved within them. -/
def bounded (c : Controller) (bounds : Bounds) : Controller :=
  { c with
    bounds
    temperature := bounds.clamp c.temperature
    overrides := c.overrides.map bounds.clamp }

/-- The controller after a control step. -/
def ticked (c : Controller) (made : ControlStep) : Controller :=
  { c with
    integral := made.integral, lastError := made.error, temperature := made.temperature }

/-! ## Where the operations leave a site -/

/-- Where a site is left when the bounds are replaced. -/
def afterBounding (site : Site Controller Unit) (bounds : Bounds) : Site Controller Unit where
  state := site.state.bounded bounds
  outside := site.outside
  events := site.events ++
    .boundsUpdated bounds.min bounds.max ::
      .temperatureUpdated site.state.temperature (bounds.clamp site.state.temperature) ::
        (site.state.moved bounds).map fun (role, value) => .roleOverrideSet role value
  readings := site.readings ++ [.temperature (bounds.clamp site.state.temperature)]

/-- Where a site is left when the temperature is set. -/
def afterSetting (site : Site Controller Unit) (value : Int) : Site Controller Unit where
  state := { site.state with temperature := value }
  outside := site.outside
  events := site.events ++ [.temperatureUpdated site.state.temperature value]
  readings := site.readings ++ [.temperature value]

/-- Where a site is left when a role is given a temperature. -/
def afterOverriding (site : Site Controller Unit) (role : Role) (value : Int) :
    Site Controller Unit :=
  { site with
    state := { site.state with overrides := site.state.overrides.insert role value }
    events := site.events ++ [.roleOverrideSet role value] }

/-- Where a site is left by a tick. -/
def afterTick (site : Site Controller Unit) (made : ControlStep) : Site Controller Unit where
  state := site.state.ticked made
  outside := site.outside
  events := site.events ++
    [.temperatureTicked made.error made.integral made.derivative made.delta made.temperature]
  readings := site.readings ++ [.tickApplied, .temperature made.temperature]

/-- Where a site is left when a tick is refused. -/
def afterRefusal (site : Site Controller Unit) : Site Controller Unit :=
  { site with readings := site.readings ++ [.tickRejected] }

theorem ensureInBounds_eq_ok {c : Controller} {value : Int} :
    c.ensureInBounds value = .ok () ↔ 0 < value ∧ c.bounds.Admits value := by
  rw [← Bounds.check_eq_ok, ensureInBounds]
  cases h : c.bounds.check value <;> simp

theorem makeBounds_eq_ok {min max : Int} {bounds : Bounds} :
    makeBounds min max = .ok bounds ↔ bounds = ⟨min, max⟩ ∧ bounds.IsValid := by
  rw [← Bounds.make_eq_ok, makeBounds]
  cases h : Bounds.make min max <;> simp

theorem run_setBounds (caller : Address) (min max : Int) (site : Site Controller Unit) :
    (setBounds caller min max).run site =
      match site.state.ensureAuthority caller with
      | .error cause => (.error cause, site)
      | .ok () =>
        match makeBounds min max with
        | .error cause => (.error cause, site)
        | .ok bounds => (.ok (), afterBounding site bounds) := by
  cases hauthority : site.state.ensureAuthority caller with
  | error cause => simp [setBounds, hauthority]
  | ok passed =>
      cases hbounds : makeBounds min max with
      | error cause => simp [setBounds, hauthority, hbounds]
      | ok bounds =>
          obtain ⟨rfl, -⟩ := makeBounds_eq_ok.mp hbounds
          simp [setBounds, hauthority, hbounds, afterBounding, bounded]

theorem run_setTemperature (caller : Address) (value : Int) (site : Site Controller Unit) :
    (setTemperature caller value).run site =
      match site.state.ensureAuthority caller with
      | .error cause => (.error cause, site)
      | .ok () =>
        match site.state.ensureInBounds value with
        | .error cause => (.error cause, site)
        | .ok () => (.ok (), afterSetting site value) := by
  cases hauthority : site.state.ensureAuthority caller with
  | error cause => simp [setTemperature, hauthority]
  | ok passed =>
      cases hvalue : site.state.ensureInBounds value <;>
        simp [setTemperature, hauthority, hvalue, afterSetting]

theorem run_setOverride (caller : Address) (role : Role) (value : Int)
    (site : Site Controller Unit) :
    (setOverride caller role value).run site =
      match site.state.ensureAuthority caller with
      | .error cause => (.error cause, site)
      | .ok () =>
        match site.state.ensureInBounds value with
        | .error cause => (.error cause, site)
        | .ok () => (.ok (), afterOverriding site role value) := by
  cases hauthority : site.state.ensureAuthority caller with
  | error cause => simp [setOverride, hauthority]
  | ok passed =>
      cases hvalue : site.state.ensureInBounds value <;>
        simp [setOverride, hauthority, hvalue, afterOverriding]

theorem run_tick (caller : Address) (signals : Signals) (site : Site Controller Unit) :
    (tick caller signals).run site =
      match site.state.ensureAuthority caller with
      | .error cause => (.error cause, site)
      | .ok () =>
        match site.state.stepOn signals with
        | .error cause => (.error (.control cause), afterRefusal site)
        | .ok made => (.ok made, afterTick site made) := by
  cases hauthority : site.state.ensureAuthority caller with
  | error cause => simp [tick, hauthority]
  | ok passed =>
      cases hstep : site.state.stepOn signals with
      | error cause => simp [tick, hauthority, hstep, afterRefusal]
      | ok made => simp [tick, hauthority, hstep, afterTick, ticked]

end Controller

/-! ## One step -/

/-- What an administrative operation without a further check changes, and the event that tells of
it. -/
def Command.amendment : Command → Option ((Controller → Controller) × (Controller → Event))
  | .transferAuthority new =>
    some (fun c => { c with authority := ⟨new⟩ },
      fun c => .authorityTransferred .temperature c.authority.holder new)
  | .setGains gains =>
    some (fun c => { c with gains }, fun _ => .gainsUpdated gains.kp gains.ki gains.kd)
  | .clearOverride role =>
    some (fun c => { c with overrides := c.overrides.erase role },
      fun _ => .roleOverrideCleared role)
  | .setBounds _ _ | .setTemperature _ | .setOverride _ _ | .tick _ => none

theorem perform_of_amendment {caller : Address} {command : Command}
    {change : Controller → Controller} {event : Controller → Event}
    (h : command.amendment = some (change, event)) :
    Controller.perform caller command =
      settle (amend (fun c => c.ensureAuthority caller) change event) := by
  cases command <;> cases h <;> rfl

/-- What one operation may do: how it ends, and where it leaves the site. -/
inductive Step (caller : Address) (before : Site Controller Unit) :
    Command → Except Error Answer → Site Controller Unit → Prop
  | refused (command : Command) (cause : Error) :
      Step caller before command (.error cause) before
  | amended {command : Command} {change : Controller → Controller} {event : Controller → Event}
      (hcommand : command.amendment = some (change, event))
      (hauthority : before.state.ensureAuthority caller = .ok ()) :
      Step caller before command (.ok none)
        { before with
          state := change before.state, events := before.events ++ [event before.state] }
  | bounded {min max : Int} {bounds : Bounds}
      (hauthority : before.state.ensureAuthority caller = .ok ())
      (hbounds : bounds = ⟨min, max⟩) (hvalid : bounds.IsValid) :
      Step caller before (.setBounds min max) (.ok none)
        (Controller.afterBounding before bounds)
  | set {value : Int} (hauthority : before.state.ensureAuthority caller = .ok ())
      (hvalue : before.state.bounds.Admits value) :
      Step caller before (.setTemperature value) (.ok none)
        (Controller.afterSetting before value)
  | overridden {role : Role} {value : Int}
      (hauthority : before.state.ensureAuthority caller = .ok ())
      (hvalue : before.state.bounds.Admits value) :
      Step caller before (.setOverride role value) (.ok none)
        (Controller.afterOverriding before role value)
  | ticked {signals : Signals} {made : ControlStep}
      (hauthority : before.state.ensureAuthority caller = .ok ())
      (hstep : before.state.stepOn signals = .ok made) :
      Step caller before (.tick signals) (.ok (some made)) (Controller.afterTick before made)
  | rejected {signals : Signals} {cause : ControlFailure}
      (hauthority : before.state.ensureAuthority caller = .ok ())
      (hstep : before.state.stepOn signals = .error cause) :
      Step caller before (.tick signals) (.error (.control cause))
        (Controller.afterRefusal before)

theorem step_of_amendment (caller : Address) {command : Command}
    {change : Controller → Controller} {event : Controller → Event}
    (before : Site Controller Unit) (hcommand : command.amendment = some (change, event)) :
    Step caller before command
      ((Controller.perform caller command).run before).1
      ((Controller.perform caller command).run before).2 := by
  rw [perform_of_amendment hcommand, settle, run_bind, run_amend]
  cases hauthority : before.state.ensureAuthority caller with
  | error cause => exact .refused _ cause
  | ok passed => exact .amended hcommand hauthority

/-- Every operation takes one of the steps. -/
theorem perform_step (caller : Address) (command : Command) (before : Site Controller Unit) :
    Step caller before command
      ((Controller.perform caller command).run before).1
      ((Controller.perform caller command).run before).2 := by
  cases command with
  | transferAuthority new => exact step_of_amendment caller before rfl
  | setGains gains => exact step_of_amendment caller before rfl
  | clearOverride role => exact step_of_amendment caller before rfl
  | setBounds min max =>
      rw [Controller.perform, settle, run_bind, Controller.run_setBounds]
      cases hauthority : before.state.ensureAuthority caller with
      | error cause => exact .refused _ cause
      | ok passed =>
          cases hbounds : Controller.makeBounds min max with
          | error cause => exact .refused _ cause
          | ok bounds =>
              obtain ⟨heq, hvalid⟩ := Controller.makeBounds_eq_ok.mp hbounds
              exact .bounded hauthority heq hvalid
  | setTemperature value =>
      rw [Controller.perform, settle, run_bind, Controller.run_setTemperature]
      cases hauthority : before.state.ensureAuthority caller with
      | error cause => exact .refused _ cause
      | ok passed =>
          cases hvalue : before.state.ensureInBounds value with
          | error cause => exact .refused _ cause
          | ok passed => exact .set hauthority (Controller.ensureInBounds_eq_ok.mp hvalue).2
  | setOverride role value =>
      rw [Controller.perform, settle, run_bind, Controller.run_setOverride]
      cases hauthority : before.state.ensureAuthority caller with
      | error cause => exact .refused _ cause
      | ok passed =>
          cases hvalue : before.state.ensureInBounds value with
          | error cause => exact .refused _ cause
          | ok passed => exact .overridden hauthority (Controller.ensureInBounds_eq_ok.mp hvalue).2
  | tick signals =>
      rw [Controller.perform, run_bind, Controller.run_tick]
      cases hauthority : before.state.ensureAuthority caller with
      | error cause => exact .refused _ cause
      | ok passed =>
          cases hstep : before.state.stepOn signals with
          | error cause => exact .rejected hauthority hstep
          | ok made => exact .ticked hauthority hstep

/-- An operation that fails leaves everything as it is, but that a refused tick is counted. -/
theorem Step.eq_of_error {caller : Address} {command : Command} {cause : Error}
    {before after : Site Controller Unit} (h : Step caller before command (.error cause) after) :
    after = before ∨ after = Controller.afterRefusal before := by
  cases h with
  | refused _ _ => exact .inl rfl
  | rejected _ _ => exact .inr rfl

end Integrity.Temperature
