import Integrity.Config.Basic

/-!
# Replaying control steps

A fresh controller makes a sequence of control steps. When a step is refused the replay goes on from
the state that the step left.
-/

namespace Integrity.Simulation

open Temperature (Controller Signals)

/-- Who holds every authority in a simulation. -/
def operator : Address :=
  Address.filled 0x5E

namespace Replay

/-- What became of a step. -/
structure Outcome where
  index : Nat
  temperature : Int
  integral : Int
  rejected : Option Temperature.Error
deriving DecidableEq

/-- A step on a controller: the controller after it, and why it was refused, if it was. -/
def advance (c : Controller) (signals : Signals) : Controller × Option Temperature.Error :=
  match (Controller.tick operator signals).run (.start c ()) with
  | (.ok _, site) => (site.state, none)
  | (.error cause, site) => (site.state, some cause)

/-- What becomes of steps, the first of which has the place `index`. -/
def outcomes (c : Controller) (index : Nat) : List Signals → List Outcome
  | [] => []
  | signals :: rest =>
    let (c, rejected) := advance c signals
    ⟨index, c.temperature, c.integral, rejected⟩ :: outcomes c (index + 1) rest

/-- Why there is no replay. -/
structure Error where
  cause : Temperature.Error
deriving DecidableEq

/-- What is said when there is no replay. -/
def Error.trail (e : Error) : Trail :=
  (Trail.ofFailure e.cause.message).causing "Invalid temperature parameters"

end Replay

/-- Replays control steps from what a configuration says of the temperature. -/
def replay (config : Config) (steps : List Signals) : Except Replay.Error (List Replay.Outcome) :=
  match Controller.make operator config.temperatureSettings with
  | .error cause => .error ⟨cause⟩
  | .ok c => .ok (Replay.outcomes c 0 steps)

end Integrity.Simulation
