import Integrity.Temperature.Bounds

/-!
# The control law

A control step adds three error signals to one error, and moves the temperature by a proportional,
an integral and a derivative term. Every quantity on the way has to fit 128 bits, and the first
that does not is named.
-/

namespace Integrity.Temperature

/-- The gains of the three terms. -/
structure Gains where
  kp : Int
  ki : Int
  kd : Int
deriving DecidableEq, Repr, Inhabited

/-- The three error signals of a step. -/
structure Signals where
  emission : Int
  backlog : Int
  serviceLevel : Int
deriving DecidableEq, Repr, Inhabited

/-- The outcome of a control step. -/
structure ControlStep where
  error : Int
  integral : Int
  derivative : Int
  /-- The move before it is kept within the bounds. -/
  delta : Int
  temperature : Int
deriving DecidableEq, Repr

/-- Why a control step was refused. -/
inductive ControlFailure where
  | overflow (stage : Stage)
  /-- The lower bound is above the upper one, so that there is no nearest point between them. -/
  | unordered (bounds : Bounds)
  | degenerate (temperature : Int)
deriving DecidableEq, Repr

/-- The smallest number of 128 bits. -/
def minWord128 : Int :=
  -0x80000000000000000000000000000000

/-- The largest number of 128 bits. -/
def maxWord128 : Int :=
  0x7FFFFFFFFFFFFFFFFFFFFFFFFFFFFFFF

/-- Whether a number fits 128 bits. -/
def FitsWord128 (n : Int) : Prop :=
  minWord128 ≤ n ∧ n ≤ maxWord128

instance (n : Int) : Decidable (FitsWord128 n) :=
  inferInstanceAs (Decidable (_ ∧ _))

/-- A quantity that has to fit. -/
def fitted (stage : Stage) (n : Int) : Except ControlFailure Int :=
  if FitsWord128 n then .ok n else .error (.overflow stage)

/-- The sum of the signals, added in their order. -/
def Signals.combined (signals : Signals) : Except ControlFailure Int := do
  let sum ← fitted .error (signals.emission + signals.backlog)
  fitted .error (sum + signals.serviceLevel)

/-- One control step from a temperature, the sum of errors so far and the last error. -/
def step (gains : Gains) (bounds : Bounds) (temperature integral lastError : Int)
    (signals : Signals) : Except ControlFailure ControlStep := do
  let error ← signals.combined
  let integral ← fitted .integral (integral + error)
  let derivative ← fitted .derivative (error - lastError)
  let p ← fitted .proportionalTerm (gains.kp * error)
  let i ← fitted .integralTerm (gains.ki * integral)
  let d ← fitted .derivativeTerm (gains.kd * derivative)
  let sum ← fitted .delta (p + i)
  let delta ← fitted .delta (sum + d)
  let target ← fitted .temperature (temperature + delta)
  if bounds.max < bounds.min then .error (.unordered bounds)
  else
    let next := bounds.clamp target
    if next ≤ 0 then .error (.degenerate next)
    else .ok { error, integral, derivative, delta, temperature := next }

end Integrity.Temperature
