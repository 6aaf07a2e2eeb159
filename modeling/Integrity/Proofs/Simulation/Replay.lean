import Integrity.Proofs.Engine.Build
import Integrity.Proofs.Temperature.Envelope
import Integrity.Simulation.Replay

/-! # Replays of control steps

A replay drives a controller under the authority of its own operator, so that a step is refused only
when the control law refuses it. The parameters of a configuration have 64 bits, and this leaves room
for signals that are not too large, or not too many. -/

namespace Integrity.Simulation

open Temperature (Controller Signals ControlStep)

theorem isHeldBy_operator : (Authority.mk operator).isHeldBy operator = true := by
  decide

namespace Replay

theorem length_outcomes (c : Controller) (index : Nat) (steps : List Signals) :
    (outcomes c index steps).length = steps.length := by
  induction steps generalizing c index with
  | nil => rfl
  | cons signals rest ih => exact congrArg Nat.succ (ih _ _)

theorem advance_of_stepOn {c : Controller} {signals : Signals} {made : ControlStep}
    (hheld : c.authority.isHeldBy operator = true) (hmade : c.stepOn signals = .ok made) :
    advance c signals = (c.ticked made, none) := by
  have hauthority : c.ensureAuthority operator = .ok () := if_pos hheld
  have hrun : (Controller.tick operator signals).run (.start c ()) =
      (.ok made, Controller.afterTick (.start c ()) made) := by
    rw [Controller.run_tick]
    simp only [Site.start, hauthority, hmade]
  rw [advance, hrun]
  rfl

/-- The steps that a controller follows are not refused in a replay. -/
theorem rejected_outcomes_of_follow {c last : Controller}
    (hheld : c.authority.isHeldBy operator = true) {steps : List Signals}
    (hfollow : c.follow steps = .ok last) (index : Nat) :
    ∀ outcome ∈ outcomes c index steps, outcome.rejected = none := by
  induction steps generalizing c index with
  | nil => exact nofun
  | cons signals rest ih =>
    obtain ⟨made, hmade, hrest⟩ := Controller.follow_cons_eq_ok.mp hfollow
    simp only [outcomes, advance_of_stepOn hheld hmade, List.forall_mem_cons, true_and]
    have hnext : (c.ticked made).authority.isHeldBy operator = true := hheld
    exact ih hnext hrest (index + 1)

/-- While there is room for all steps, none of them is refused. -/
theorem rejected_outcomes {c : Controller} {size count : Nat} (h : c.Modest size count)
    (hheld : c.authority.isHeldBy operator = true) {steps : List Signals}
    (hsteps : ∀ signals ∈ steps, signals.Within size)
    (hroom : 3 * size * (count + steps.length + 3) < 2 ^ 64) (index : Nat) :
    ∀ outcome ∈ outcomes c index steps, outcome.rejected = none := by
  obtain ⟨last, hfollow, -⟩ := h.follow hsteps hroom
  exact rejected_outcomes_of_follow hheld hfollow index

end Replay

/-- The controller of a configuration is modest at its start. -/
theorem modest_controller {config : Config} (h : config.temperature.IsBounded)
    (authority : Address) (size : Nat) : (config.controller authority).Modest size 0 := by
  have hfits : ∀ n : Int64, FitsInt64 n.toInt := fun n =>
    ⟨n.le_toInt, Int.le_of_lt_add_one n.toInt_lt⟩
  obtain ⟨hvalid, hadmits⟩ := Config.TemperatureSection.isBounded_iff.mp h
  exact
    { gains := ⟨hfits _, hfits _, hfits _⟩
      bounds := hvalid
      max := hfits _
      temperature := hadmits
      integral := Nat.zero_le _
      lastError := Nat.zero_le _ }

/-- A replay from a configuration whose temperature starts within valid bounds refuses none of its
steps while the signals are not too large for their number. -/
theorem replay_refuses_none (config : Config) (h : config.temperature.IsBounded) (size : Nat)
    (steps : List Signals) (hsteps : ∀ signals ∈ steps, signals.Within size)
    (hroom : 3 * size * (steps.length + 3) < 2 ^ 64) :
    ∃ outcomes, replay config steps = .ok outcomes ∧ outcomes.length = steps.length ∧
      ∀ outcome ∈ outcomes, outcome.rejected = none := by
  have hmake : Controller.make operator config.temperatureSettings =
      .ok (config.controller operator) :=
    Controller.make_temperatureSettings.mpr ⟨h, rfl⟩
  refine ⟨Replay.outcomes (config.controller operator) 0 steps, ?_,
    Replay.length_outcomes _ _ _, ?_⟩
  · rw [replay, hmake]
  · refine Replay.rejected_outcomes (modest_controller h operator size) isHeldBy_operator hsteps
      ?_ 0
    rwa [Nat.zero_add]

/-- The largest signals that two steps have room for, first up and then down, with the largest gains
that a configuration can have. -/
theorem replay_refuses_none_extremes :
    let gain := Int64.minValue
    let temperature := { Config.TemperatureSection.default with kp := gain, ki := gain, kd := gain }
    let config := { Config.default with temperature }
    let size : Nat := 1229782938247303441
    let steps : List Signals := [⟨size, size, size⟩, ⟨-size, -size, -size⟩]
    config.temperature.IsBounded ∧ 3 * size * (steps.length + 3) < 2 ^ 64 ∧
      ∃ outcomes, replay config steps = .ok outcomes ∧ outcomes.length = 2 ∧
        ∀ outcome ∈ outcomes, outcome.rejected = none := by
  intro gain temperature config size steps
  have hbounded : config.temperature.IsBounded := ⟨by decide, by decide, by decide, by decide⟩
  have hroom : 3 * size * (steps.length + 3) < 2 ^ 64 := by decide
  exact ⟨hbounded, hroom,
    replay_refuses_none config hbounded size steps (by decide) hroom⟩

end Integrity.Simulation
