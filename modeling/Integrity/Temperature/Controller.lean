import Integrity.Authority
import Integrity.Operation
import Integrity.Table
import Integrity.Temperature.ControlLaw

/-!
# The temperature controller

One temperature for the whole marketplace, moved by control steps and kept within bounds; a role
may have a temperature of its own. Only the holder of the authority changes anything, and every
check of an operation comes before its first change.
-/

namespace Integrity.Temperature

/-- Why an operation of the controller failed. -/
inductive Error where
  | unauthorized (caller : Address)
  | nonPositiveBounds (cause : NonPositiveBounds)
  | outOfBounds (cause : OutOfBounds)
  | control (cause : ControlFailure)
deriving DecidableEq

/-- What is said about a refused control step. -/
def ControlFailure.message : ControlFailure → String
  | .overflow stage => s!"Arithmetic overflow computing {stage.name}"
  | .unordered bounds => s!"Bounds out of order: min {bounds.min}, max {bounds.max}"
  | .degenerate temperature => s!"Degenerate temperature after tick: {temperature}"

/-- What is said about an operation of the controller that failed. -/
def Error.message : Error → String
  | .unauthorized caller => s!"Unauthorized caller: {caller}"
  | .nonPositiveBounds cause =>
    s!"Non-positive bounds: min {cause.min}, max {cause.max} (require 0 < min < max)"
  | .outOfBounds cause =>
    s!"Temperature out of bounds: {cause.value} not in [{cause.min}, {cause.max}]"
  | .control cause => cause.message

/-- What a controller starts from. -/
structure Settings where
  initial : Int
  min : Int
  max : Int
  gains : Gains
deriving DecidableEq, Repr

/-- The usual start: 100 within 1 and 1000, moved by the error alone. -/
def Settings.default : Settings :=
  ⟨100, 1, 1000, ⟨1, 0, 0⟩⟩

/-- The state of the controller. -/
structure Controller where
  authority : Authority
  temperature : Int
  bounds : Bounds
  gains : Gains
  integral : Int
  lastError : Int
  overrides : Table Role Int
deriving DecidableEq

namespace Controller

open Operation

/-- A controller at its start. -/
def make (authority : Address) (settings : Settings) : Except Error Controller :=
  match Bounds.make settings.min settings.max with
  | .error cause => .error (.nonPositiveBounds cause)
  | .ok bounds =>
    match bounds.check settings.initial with
    | .error cause => .error (.outOfBounds cause)
    | .ok () =>
      .ok
        { authority := ⟨authority⟩
          temperature := settings.initial
          bounds
          gains := settings.gains
          integral := 0
          lastError := 0
          overrides := Table.empty }

/-- Lets only the holder of the authority pass. -/
def ensureAuthority (c : Controller) (caller : Address) : Except Error Unit :=
  if c.authority.isHeldBy caller then .ok () else .error (.unauthorized caller)

/-- Lets only a temperature within the bounds pass. -/
def ensureInBounds (c : Controller) (value : Int) : Except Error Unit :=
  match c.bounds.check value with
  | .ok () => .ok ()
  | .error cause => .error (.outOfBounds cause)

/-- The bounds `min` and `max`, when they are valid. -/
def makeBounds (min max : Int) : Except Error Bounds :=
  (Bounds.make min max).mapError .nonPositiveBounds

/-- Gives the authority to another address. -/
def transferAuthority (caller new : Address) : Operation Controller Unit Error Unit :=
  amend (fun c => c.ensureAuthority caller) (fun c => { c with authority := ⟨new⟩ })
    fun c => .authorityTransferred .temperature c.authority.holder new

/-- Replaces the gains. -/
def setGains (caller : Address) (gains : Gains) : Operation Controller Unit Error Unit :=
  amend (fun c => c.ensureAuthority caller) (fun c => { c with gains })
    fun _ => .gainsUpdated gains.kp gains.ki gains.kd

/-- The roles whose temperature is not what `bounds` make of it, with what they make of it. -/
def moved (c : Controller) (bounds : Bounds) : List (Role × Int) :=
  Role.all.filterMap fun role =>
    match c.overrides.get? role with
    | none => none
    | some value => if bounds.clamp value = value then none else some (role, bounds.clamp value)

/-- Replaces the bounds and moves every temperature to its nearest point within them. -/
def setBounds (caller : Address) (min max : Int) : Operation Controller Unit Error Unit := do
  let before ← state
  check (before.ensureAuthority caller)
  let bounds ← check (makeBounds min max)
  let temperature := bounds.clamp before.temperature
  update fun c => { c with bounds }
  update fun c => { c with temperature }
  update fun c => { c with overrides := c.overrides.map bounds.clamp }
  emit [.boundsUpdated min max]
  emit [.temperatureUpdated before.temperature temperature]
  emit ((before.moved bounds).map fun (role, value) => .roleOverrideSet role value)
  observe [.temperature temperature]

/-- Sets the temperature. -/
def setTemperature (caller : Address) (value : Int) : Operation Controller Unit Error Unit := do
  let before ← state
  check (before.ensureAuthority caller)
  check (before.ensureInBounds value)
  update fun c => { c with temperature := value }
  emit [.temperatureUpdated before.temperature value]
  observe [.temperature value]

/-- Gives a role a temperature of its own. -/
def setOverride (caller : Address) (role : Role) (value : Int) :
    Operation Controller Unit Error Unit := do
  let before ← state
  check (before.ensureAuthority caller)
  check (before.ensureInBounds value)
  update fun c => { c with overrides := c.overrides.insert role value }
  emit [.roleOverrideSet role value]

/-- Lets a role follow the common temperature. -/
def clearOverride (caller : Address) (role : Role) : Operation Controller Unit Error Unit :=
  amend (fun c => c.ensureAuthority caller)
    (fun c => { c with overrides := c.overrides.erase role }) fun _ => .roleOverrideCleared role

/-- The control step that the state would make on these signals. -/
def stepOn (c : Controller) (signals : Signals) : Except ControlFailure ControlStep :=
  step c.gains c.bounds c.temperature c.integral c.lastError signals

/-- Makes a control step. A step that is refused is counted. -/
def tick (caller : Address) (signals : Signals) :
    Operation Controller Unit Error ControlStep := do
  let before ← state
  check (before.ensureAuthority caller)
  match before.stepOn signals with
  | .error cause =>
    observe [.tickRejected]
    throw (.control cause)
  | .ok made =>
    update fun c => { c with integral := made.integral }
    update fun c => { c with lastError := made.error }
    update fun c => { c with temperature := made.temperature }
    emit
      [.temperatureTicked made.error made.integral made.derivative made.delta made.temperature]
    observe [.tickApplied]
    observe [.temperature made.temperature]
    return made

/-- The temperature that a role follows. -/
def effective (c : Controller) (role : Role) : Int :=
  (c.overrides.get? role).getD c.temperature

/-- The temperatures of single roles, in the order of the roles. -/
def overrideList (c : Controller) : List (Role × Int) :=
  Role.all.filterMap fun role => (c.overrides.get? role).map fun value => (role, value)

end Controller

/-- The operations that change a controller. -/
inductive Command where
  | transferAuthority (new : Address)
  | setGains (gains : Gains)
  | setBounds (min max : Int)
  | setTemperature (value : Int)
  | setOverride (role : Role) (value : Int)
  | clearOverride (role : Role)
  | tick (signals : Signals)
deriving DecidableEq

/-- The answer to an operation: the control step of a tick, nothing otherwise. -/
abbrev Answer : Type :=
  Option ControlStep

/-- An administrative operation, whose answer is empty. -/
def settle (op : Operation Controller Unit Error Unit) : Operation Controller Unit Error Answer :=
  op >>= fun _ => pure none

/-- Carries out an operation for a caller. -/
def Controller.perform (caller : Address) : Command → Operation Controller Unit Error Answer
  | .transferAuthority new => settle (transferAuthority caller new)
  | .setGains gains => settle (setGains caller gains)
  | .setBounds min max => settle (setBounds caller min max)
  | .setTemperature value => settle (setTemperature caller value)
  | .setOverride role value => settle (setOverride caller role value)
  | .clearOverride role => settle (clearOverride caller role)
  | .tick signals => tick caller signals >>= fun made => pure (some made)

end Integrity.Temperature
