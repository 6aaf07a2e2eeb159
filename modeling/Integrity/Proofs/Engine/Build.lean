import Integrity.Engine.Build
import Integrity.Proofs.Config.Valid

/-! # Engines that are built

An engine is built from a configuration that passed its checks, and these leave nothing for which a
subsystem could refuse to start. -/

namespace Integrity

/-! ## The temperature controller -/

/-- The controller that a configuration describes. -/
def Config.controller (config : Config) (authority : Address) : Temperature.Controller where
  authority := ⟨authority⟩
  temperature := config.temperature.initial.toInt
  bounds := ⟨config.temperature.minBound.toInt, config.temperature.maxBound.toInt⟩
  gains :=
    ⟨config.temperature.kp.toInt, config.temperature.ki.toInt, config.temperature.kd.toInt⟩
  integral := 0
  lastError := 0
  overrides := Table.empty

theorem Temperature.Controller.make_temperatureSettings {config : Config} {authority : Address}
    {c : Controller} :
    make authority config.temperatureSettings = .ok c ↔
      config.temperature.IsBounded ∧ c = config.controller authority := by
  rw [Config.TemperatureSection.isBounded_iff]
  constructor
  · intro h
    simp only [make, Config.temperatureSettings] at h
    split at h
    · cases h
    · next bounds hmake =>
      obtain ⟨rfl, hvalid⟩ := Bounds.make_eq_ok.mp hmake
      split at h
      · cases h
      · next hcheck =>
        cases h
        exact ⟨⟨hvalid, (Bounds.check_eq_ok.mp hcheck).2⟩, rfl⟩
  · rintro ⟨⟨hvalid, hadmits⟩, rfl⟩
    have hpositive : 0 < config.temperature.initial.toInt := Int.lt_of_lt_of_le hvalid.1 hadmits.1
    simp only [make, Config.temperatureSettings, Bounds.make_eq_ok.mpr ⟨rfl, hvalid⟩,
      Bounds.check_eq_ok.mpr ⟨hpositive, hadmits⟩]
    rfl

theorem Temperature.Controller.exists_make {config : Config}
    (h : config.temperature.validate = .ok ()) (authority : Address) :
    ∃ c, make authority config.temperatureSettings = .ok c := by
  obtain ⟨-, hbounds⟩ := Config.TemperatureSection.validate_eq_ok.mp h
  have hbounded := Config.TemperatureSection.isBounded_iff.mpr hbounds
  exact ⟨_, make_temperatureSettings.mpr ⟨hbounded, rfl⟩⟩

/-! ## The audit scheduler -/

/-- The scheduler that a configuration describes. -/
def Config.scheduler (config : Config) (auditors : Audit.Roster) (sinkConnected : Bool) :
    Audit.Scheduler where
  authority := ⟨config.audit.authority⟩
  notifier := config.audit.notifier
  auditors := auditors
  probability := config.audit.probability
  penalty := config.audit.penalty
  sinkConnected := sinkConnected
  policy := config.audit.policy
  paused := false
  records := Table.empty
  stats := Audit.Stats.zero

theorem Audit.Scheduler.make_auditSettings {config : Config} {sinkConnected : Bool}
    {s : Scheduler} :
    make config.audit.authority config.auditSettings sinkConnected = .ok s ↔
      config.audit.probability.toNat ≤ certainty ∧
        s = config.scheduler (Roster.ofList config.audit.auditors) sinkConnected := by
  by_cases hprobability : config.audit.probability.toNat ≤ certainty
  · have hpassed : ensureProbability config.auditSettings.probability = .ok () :=
      if_neg (Nat.not_lt.mpr hprobability)
    rw [make, hpassed]
    constructor
    · intro h
      cases h
      exact ⟨hprobability, rfl⟩
    · rintro ⟨-, rfl⟩
      rfl
  · have hrefused : ensureProbability config.auditSettings.probability =
        .error (.invalidProbability config.audit.probability) :=
      if_pos (Nat.not_le.mp hprobability)
    rw [make, hrefused]
    exact iff_of_false nofun fun h => hprobability h.1

theorem Audit.Scheduler.exists_make {config : Config} (h : config.audit.validate = .ok ())
    (sinkConnected : Bool) :
    ∃ s, make config.audit.authority config.auditSettings sinkConnected = .ok s := by
  obtain ⟨-, -, hprobability, -⟩ := Config.AuditSection.validate_eq_ok.mp h
  exact ⟨_, make_auditSettings.mpr ⟨hprobability, rfl⟩⟩

/-! ## The engine -/

namespace Engine

theorem build_eq_ok {config : Config} {collaborators : Collaborators}
    {withSink withMetrics : Bool} {engine : Engine} :
    build config collaborators withSink withMetrics = .ok engine ↔
      config.validate = .ok () ∧ ∃ c s,
        Temperature.Controller.make config.temperature.authority config.temperatureSettings =
          .ok c ∧
        Audit.Scheduler.make config.audit.authority config.auditSettings withSink = .ok s ∧
        engine =
          { temperature := some c
            audit := some s
            disputes := some (Dispute.Resolver.make config.disputes.authority
              config.disputeSettings .pool .registry)
            log := EventLog.empty
            metrics := if withMetrics then some (startMetrics config) else none
            collaborators } := by
  rw [build]
  cases config.validate with
  | error cause => simp [bind, Except.bind]
  | ok passed =>
      cases Temperature.Controller.make config.temperature.authority
          config.temperatureSettings with
      | error cause => simp [bind, Except.bind]
      | ok c =>
          cases Audit.Scheduler.make config.audit.authority config.auditSettings withSink with
          | error cause => simp [bind, Except.bind]
          | ok s => simp [bind, Except.bind, pure, Except.pure, eq_comm]

/-- A valid configuration is all that an engine needs. -/
theorem exists_build {config : Config} (h : config.validate = .ok ())
    (collaborators : Collaborators) (withSink withMetrics : Bool) :
    ∃ engine, build config collaborators withSink withMetrics = .ok engine := by
  obtain ⟨htemperature, haudit, -, -⟩ := Config.validate_eq_ok.mp h
  obtain ⟨c, hc⟩ :=
    Temperature.Controller.exists_make htemperature config.temperature.authority
  obtain ⟨s, hs⟩ := Audit.Scheduler.exists_make haudit withSink
  exact ⟨_, build_eq_ok.mpr ⟨h, c, s, hc, hs, rfl⟩⟩

end Engine

/-! ## All trust in one address -/

/-- A configuration that leaves everything to one address. Every finished job is audited. -/
def Config.entrusted (holder : Address) (auditors : List Address) (penalty bond : Amount) :
    Config where
  temperature := { TemperatureSection.default with authority := holder }
  audit :=
    { AuditSection.default with
      authority := holder, notifier := holder, probability := 10000, penalty, auditors }
  disputes := ⟨holder, bond, 0, holder, holder⟩
  logging := .default

/-- Collaborators that nothing was asked of yet, with the same seed for every job. -/
def Collaborators.fresh : Collaborators :=
  ⟨Ledger.empty, ReputationBook.empty, JobRegistry.empty, ValidatorPool.empty, ⟨Word.zero, 0⟩,
    Audit.constantSeed Word.zero⟩

/-- The engine of that configuration. -/
def Engine.entrusted (holder : Address) (auditors : List Address) (penalty bond : Amount)
    (withSink withMetrics : Bool) : Engine where
  temperature := some ⟨⟨holder⟩, 100, ⟨1, 1000⟩, ⟨1, 0, 0⟩, 0, 0, Table.empty⟩
  audit := some ⟨⟨holder⟩, holder, Audit.Roster.ofList auditors, 10000, penalty, withSink,
    .lastWriteWins, false, Table.empty, Audit.Stats.zero⟩
  disputes := some (Dispute.Resolver.make holder ⟨bond, 0, holder, holder⟩ .pool .registry)
  log := EventLog.empty
  metrics :=
    if withMetrics then some (Engine.startMetrics (.entrusted holder auditors penalty bond))
    else none
  collaborators := .fresh

section Entrusted

variable {holder : Address} (h : holder.isNull = false) (auditors : List Address)
  (penalty bond : Amount)
include h

theorem Config.validate_entrusted : (entrusted holder auditors penalty bond).validate = .ok () := by
  have hbounds : (Temperature.Bounds.mk TemperatureSection.default.minBound.toInt
      TemperatureSection.default.maxBound.toInt).IsValid := by decide
  have hinitial : (Temperature.Bounds.mk TemperatureSection.default.minBound.toInt
      TemperatureSection.default.maxBound.toInt).Admits
        TemperatureSection.default.initial.toInt := ⟨by decide, by decide⟩
  have hprobability : (10000 : UInt16).toNat ≤ Audit.certainty := by decide
  have hinterval : defaultBlockInterval ≠ 0 := by decide
  have hlogging : LoggingSection.default.validate = .ok () := rfl
  rw [validate_eq_ok, TemperatureSection.validate_eq_ok, AuditSection.validate_eq_ok,
    DisputeSection.validate_eq_ok]
  exact ⟨⟨h, hbounds, hinitial⟩, ⟨h, h, hprobability, hinterval⟩, ⟨h, h, h⟩, hlogging⟩

theorem Engine.build_entrusted (withSink withMetrics : Bool) :
    build (.entrusted holder auditors penalty bond) .fresh withSink withMetrics =
      .ok (entrusted holder auditors penalty bond withSink withMetrics) := by
  have hsettings : (Config.entrusted holder auditors penalty bond).temperatureSettings =
      ⟨100, 1, 1000, ⟨1, 0, 0⟩⟩ := rfl
  refine build_eq_ok.mpr ⟨Config.validate_entrusted h auditors penalty bond, _, _, ?_, rfl, rfl⟩
  rw [hsettings]
  rfl

end Entrusted

end Integrity
