import Integrity.Proofs.Audit.Auditors
import Integrity.Proofs.Engine.Build
import Integrity.Simulation.Replay

/-! # How an engine starts

The checks of a configuration are the only ones that can fail: an engine is built exactly when they
pass, and what each subsystem asks of its own start is then true. An engine that is built starts
from the values of its configuration. -/

namespace Integrity

namespace Engine

/-- An engine that has the values of a configuration, and nothing else yet. -/
structure StartsFrom (config : Config) (collaborators : Collaborators)
    (withSink withMetrics : Bool) (engine : Engine) : Prop where
  temperature : engine.temperature = some (config.controller config.temperature.authority)
  audit : ∃ roster : Audit.Roster, roster.IsAscending ∧
    (∀ auditor, auditor ∈ roster ↔ auditor ∈ config.audit.auditors) ∧
    engine.audit = some (config.scheduler roster withSink)
  disputes : engine.disputes =
    some
      { authority := ⟨config.disputes.authority⟩
        appealBond := config.disputes.appealBond
        minJurySize := config.disputes.minJurySize.toNat
        judge := config.disputes.judge
        escrowAccount := config.disputes.escrowAccount
        juries := .pool
        employers := .registry
        disputes := Table.empty
        raised := 0
        wonByEmployer := 0
        wonByAppellant := 0 }
  log : engine.log = EventLog.empty
  metrics : engine.metrics = if withMetrics then some (startMetrics config) else none
  collaborators : engine.collaborators = collaborators

variable {config : Config} {collaborators : Collaborators} {withSink withMetrics : Bool}

theorem startsFrom_of_build {engine : Engine}
    (h : build config collaborators withSink withMetrics = .ok engine) :
    engine.StartsFrom config collaborators withSink withMetrics := by
  obtain ⟨-, c, s, hc, hs, rfl⟩ := build_eq_ok.mp h
  obtain ⟨-, rfl⟩ := Temperature.Controller.make_temperatureSettings.mp hc
  obtain ⟨-, rfl⟩ := Audit.Scheduler.make_auditSettings.mp hs
  exact
    { temperature := rfl
      audit := ⟨_, Audit.Roster.isAscending_ofList _, fun _ => Audit.Roster.mem_ofList, rfl⟩
      disputes := rfl
      log := rfl
      metrics := rfl
      collaborators := rfl }

theorem build_eq_error {cause : BuildError} :
    build config collaborators withSink withMetrics = .error cause ↔
      ∃ invalid, config.validate = .error invalid ∧ cause = .invalid invalid := by
  cases hvalidate : config.validate with
  | error invalid =>
      have hbuild : build config collaborators withSink withMetrics = .error (.invalid invalid) := by
        rw [build, hvalidate]
        rfl
      rw [hbuild]
      constructor
      · intro h
        cases h
        exact ⟨invalid, rfl, rfl⟩
      · rintro ⟨_, h, rfl⟩
        cases h
        rfl
  | ok passed =>
      obtain ⟨engine, hbuild⟩ := exists_build hvalidate collaborators withSink withMetrics
      rw [hbuild]
      constructor
      · intro h
        cases h
      · rintro ⟨_, h, -⟩
        cases h

theorem exists_replay (h : config.validate = .ok ()) (steps : List Temperature.Signals) :
    ∃ outcomes, Simulation.replay config steps = .ok outcomes := by
  obtain ⟨htemperature, -⟩ := Config.validate_eq_ok.mp h
  obtain ⟨c, hc⟩ := Temperature.Controller.exists_make htemperature Simulation.operator
  rw [Simulation.replay, hc]
  exact ⟨_, rfl⟩

/-- The checks of a configuration decide alone whether an engine is built, and how it fails. The
temperature controller starts exactly within its bounds, so that a configuration that passed is
also replayed, and its engine starts from its values. -/
theorem build_agrees (config : Config) (collaborators : Collaborators)
    (withSink withMetrics : Bool) :
    ((∃ engine, build config collaborators withSink withMetrics = .ok engine) ↔
      config.validate = .ok ()) ∧
    (∀ cause, build config collaborators withSink withMetrics = .error cause ↔
      ∃ invalid, config.validate = .error invalid ∧ cause = .invalid invalid) ∧
    (∀ authority,
      (∃ c, Temperature.Controller.make authority config.temperatureSettings = .ok c) ↔
        config.temperature.IsBounded) ∧
    (config.validate = .ok () →
      ∀ steps, ∃ outcomes, Simulation.replay config steps = .ok outcomes) ∧
    ∀ engine, build config collaborators withSink withMetrics = .ok engine →
      engine.StartsFrom config collaborators withSink withMetrics := by
  refine ⟨⟨?_, ?_⟩, fun _ => build_eq_error, fun authority => ⟨?_, ?_⟩, exists_replay,
    fun _ => startsFrom_of_build⟩
  · rintro ⟨engine, h⟩
    exact (build_eq_ok.mp h).1
  · exact fun h => exists_build h collaborators withSink withMetrics
  · rintro ⟨c, hc⟩
    exact (Temperature.Controller.make_temperatureSettings.mp hc).1
  · exact fun h => ⟨_, Temperature.Controller.make_temperatureSettings.mpr ⟨h, rfl⟩⟩

end Engine

end Integrity
