import Integrity.Proofs.Engine.Lane
import Integrity.Proofs.Simulation.Replay
import Integrity.Simulation.Demonstration

/-! # Control steps of a demonstration

A demonstration steers the temperature under the authority of its configuration. While no step is
refused the engine follows its controller alone, and nothing but the lane of the temperature
changes. -/

namespace Integrity.Simulation.Demonstration

open Operation
open Temperature (Controller Signals ControlStep)

/-! ## Actions that must not fail -/

section Perform

variable {engine after : Engine} (now : Timestamp)

theorem perform_temperature {c : Controller} (hc : engine.temperature = some c)
    {caller : Address} {command : Temperature.Command} {answer : Temperature.Answer}
    {site : Site Controller Unit}
    (hrun : (Controller.perform caller command).run (.start c ()) = (.ok answer, site)) :
    perform now (.temperature caller command) engine =
      .ok (({ engine with temperature := some site.state }).note now site.events site.readings,
        .temperature answer) := by
  simp only [perform, Engine.act, Engine.actTemperature, hc, hrun, map_ok, mapError_ok]

theorem perform_audit {s : Audit.Scheduler} (hs : engine.audit = some s) {caller : Address}
    {command : Audit.Command} {answer : Audit.Answer}
    {site : Site Audit.Scheduler ReputationBook}
    (hrun : (Audit.Scheduler.perform (Engine.auditEnvironment engine.collaborators) caller
      command).run (.start s engine.collaborators.book) = (.ok answer, site)) :
    perform now (.audit caller command) engine =
      .ok (({ engine with
          audit := some site.state
          collaborators := { engine.collaborators with book := site.outside } }).note now
            site.events site.readings,
        .audit answer) := by
  simp only [perform, Engine.act, Engine.actAudit, hs, hrun, map_ok, mapError_ok]

theorem perform_dispute {r : Dispute.Resolver} (hr : engine.disputes = some r)
    {caller : Address} {command : Dispute.Command} {answer : Dispute.Answer}
    {site : Site Dispute.Resolver Ledger}
    (hrun : (Dispute.Resolver.perform (Engine.disputeEnvironment engine.collaborators r) caller
      command).run (.start r engine.collaborators.ledger) = (.ok answer, site)) :
    perform now (.dispute caller command) engine =
      .ok (({ engine with
          disputes := some site.state
          collaborators := { engine.collaborators with ledger := site.outside } }).note now
            site.events site.readings,
        .dispute answer) := by
  simp only [perform, Engine.act, Engine.actDispute, hr, hrun, map_ok, mapError_ok]

theorem exists_run_of_perform {r : Dispute.Resolver} (hr : engine.disputes = some r)
    {caller : Address} {command : Dispute.Command} {answer : Engine.Answer}
    (h : perform now (.dispute caller command) engine = .ok (after, answer)) :
    ∃ verdict site, (Dispute.Resolver.perform (Engine.disputeEnvironment engine.collaborators r)
      caller command).run (.start r engine.collaborators.ledger) = (.ok verdict, site) := by
  simp only [perform, Engine.act, Engine.actDispute, hr] at h
  rcases hrun : (Dispute.Resolver.perform (Engine.disputeEnvironment engine.collaborators r)
    caller command).run (.start r engine.collaborators.ledger) with ⟨verdict | verdict, site⟩
  · rw [hrun] at h
    cases h
  · exact ⟨verdict, site, rfl⟩

theorem perform_moveChain (block : ChainSnapshot) :
    perform now (.moveChain block) engine =
      .ok (engine.withCollaborators { engine.collaborators with chain := block }, .done) :=
  rfl

theorem act_of_perform {action : Engine.Action} {answer : Engine.Answer}
    (h : perform now action engine = .ok (after, answer)) :
    engine.act now action = (after, .ok answer) := by
  simp only [perform] at h
  split at h
  · next hact =>
      cases h
      exact hact
  · cases h

/-- What succeeds leaves the other lanes as they are. -/
theorem lane_of_perform {action : Engine.Action} {answer : Engine.Answer}
    (h : perform now action engine = .ok (after, answer)) {subsystem : Subsystem}
    (hlane : action.lane ≠ subsystem) : after.lane subsystem = engine.lane subsystem := by
  have hother := Engine.lane_act_other engine now hlane
  rwa [act_of_perform now h] at hother

end Perform

/-! ## The temperature of a demonstration -/

/-- An engine that has this controller, and shows its temperature, a number of control steps, and
that none was refused. -/
structure Steered (c : Controller) (ticks : Nat) (engine : Engine) : Prop where
  controller : engine.temperature = some c
  shown : engine.metrics.map (fun m => m.shown .temperature) =
    some (Metrics.gauge c.temperature, (ticks : Int), 0)

namespace Steered

variable {c last : Controller} {ticks : Nat} {engine after : Engine} {caller : Address}

theorem of_lane (h : Steered c ticks engine)
    (hlane : after.lane .temperature = engine.lane .temperature) : Steered c ticks after := by
  obtain ⟨hpart, -, hshown⟩ := Engine.Lane.mk.inj hlane
  exact ⟨(Engine.Part.temperature.inj hpart).trans h.controller, hshown.trans h.shown⟩

theorem tickCounts (h : Steered c ticks engine) :
    engine.metrics.map (fun m => (m.ticks, m.rejectedTicks)) = some (ticks, 0) := by
  obtain ⟨m, hm, hshown⟩ := Option.map_eq_some_iff.mp h.shown
  simp only [Metrics.shown, Prod.mk.injEq, Int.natCast_inj, Int.natCast_eq_zero] at hshown
  rw [hm, Option.map_some, hshown.2.1, hshown.2.2]

/-- A control step that is made is counted. -/
theorem tick (h : Steered c ticks engine) (now : Timestamp)
    (hheld : c.authority.isHeldBy caller = true) {signals : Signals} {made : ControlStep}
    (hmade : c.stepOn signals = .ok made) :
    Steered (c.ticked made) (ticks + 1)
      (engine.act now (.temperature caller (.tick signals))).1 := by
  have hauthority : c.ensureAuthority caller = .ok () := if_pos hheld
  have hrun : (Controller.perform caller (.tick signals)).run (.start c ()) =
      (.ok (some made), Controller.afterTick (.start c ()) made) := by
    rw [Controller.perform, run_bind, Controller.run_tick]
    simp only [Site.start, hauthority, hmade, run_pure]
  have hshown := h.shown
  simp only [Engine.act, Engine.actTemperature, h.controller, hrun]
  refine ⟨rfl, ?_⟩
  cases hmetrics : engine.metrics with
  | none =>
      rw [hmetrics] at hshown
      cases hshown
  | some m =>
      simp only [hmetrics, Option.map_some, Metrics.shown, Option.some.injEq,
        Prod.mk.injEq] at hshown
      simp [Engine.note, Engine.observe, Controller.afterTick, Site.start,
        Metrics.readAll, Metrics.read, Metrics.shown, hshown, Controller.ticked]

/-- An engine follows its controller through control steps of which none is refused. -/
theorem makeSteps (h : Steered c ticks engine) (moment : Nat → Timestamp)
    (hheld : c.authority.isHeldBy caller = true) {steps : List Signals}
    (hfollow : c.follow steps = .ok last) :
    Steered last (ticks + steps.length) (makeSteps moment caller engine steps) := by
  induction steps generalizing c ticks engine moment with
  | nil =>
      cases hfollow
      exact h
  | cons signals rest ih =>
      obtain ⟨made, hmade, hrest⟩ := Controller.follow_cons_eq_ok.mp hfollow
      have hnext := ih (h.tick (moment 0) hheld hmade) (fun n => moment (n + 1)) hheld hrest
      rwa [Nat.add_assoc, Nat.add_comm 1] at hnext

/-- The holder of the authority gives a role a temperature within the bounds. -/
theorem override (h : Steered c ticks engine) (now : Timestamp)
    (hheld : c.authority.isHeldBy caller = true) (role : Role) {value : Int}
    (hvalue : 0 < value ∧ c.bounds.Admits value) :
    ∃ after, perform now (.temperature caller (.setOverride role value)) engine =
        .ok (after, .temperature none) ∧
      Steered { c with overrides := c.overrides.insert role value } ticks after := by
  have hauthority : c.ensureAuthority caller = .ok () := if_pos hheld
  have hbounds : c.ensureInBounds value = .ok () := Controller.ensureInBounds_eq_ok.mpr hvalue
  have hrun : (Controller.perform caller (.setOverride role value)).run (.start c ()) =
      (.ok none, Controller.afterOverriding (.start c ()) role value) := by
    rw [Controller.perform, Temperature.settle, run_bind, Controller.run_setOverride]
    simp only [Site.start, hauthority, hbounds, run_pure]
  refine ⟨_, perform_temperature now h.controller hrun, rfl, ?_⟩
  rw [← h.shown]
  simp only [Engine.note, Engine.observe, Option.map_map]
  rfl

end Steered

/-- Control steps leave the other lanes as they are. -/
theorem lane_makeSteps_other (moment : Nat → Timestamp) (caller : Address) (engine : Engine)
    (steps : List Signals) {subsystem : Subsystem} (h : Subsystem.temperature ≠ subsystem) :
    (makeSteps moment caller engine steps).lane subsystem = engine.lane subsystem := by
  induction steps generalizing engine moment with
  | nil => rfl
  | cons signals rest ih =>
      exact (ih _ _).trans (Engine.lane_act_other engine (moment 0) h)

end Integrity.Simulation.Demonstration
