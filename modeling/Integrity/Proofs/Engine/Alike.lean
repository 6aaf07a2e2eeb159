import Integrity.Engine.Basic

/-! # Engines that differ only in what nobody decides by

No operation reads the clock or the metrics. Two engines that agree in everything but the times of
their events and the count of refused ticks therefore answer every action alike, and go on to agree
after it. -/

namespace Integrity

/-! ## Logs without their times -/

/-- A record of the log without its time. -/
def EventRecord.numbered (record : EventRecord) : Nat × Event :=
  (record.sequence, record.event)

/-- The log without its times. -/
def EventLog.numbered (log : EventLog) : List (Nat × Event) :=
  log.records.map EventRecord.numbered

theorem EventLog.numbered_recordsFrom (start : Nat) (now later : Timestamp) (events : List Event) :
    (recordsFrom start now events).map EventRecord.numbered =
      (recordsFrom start later events).map EventRecord.numbered := by
  induction events generalizing start with
  | nil => rfl
  | cons event rest ih =>
      simp only [recordsFrom, List.map_cons, ih (start + 1)]
      rfl

theorem EventLog.size_eq_of_numbered {log other : EventLog}
    (h : log.numbered = other.numbered) : log.size = other.size := by
  have hlength := congrArg List.length h
  simpa only [numbered, size, List.length_map] using hlength

theorem EventLog.numbered_append {log other : EventLog} (h : log.numbered = other.numbered)
    (now later : Timestamp) (events : List Event) :
    (log.append now events).numbered = (other.append later events).numbered := by
  simp only [numbered] at h
  simp only [numbered, append, List.map_append, h, size_eq_of_numbered h]
  rw [numbered_recordsFrom]

/-! ## Metrics without the refused ticks -/

/-- The metrics without the count of refused ticks. -/
def Metrics.undisturbed (m : Metrics) : Metrics :=
  { m with rejectedTicks := 0 }

theorem Metrics.undisturbed_read (m : Metrics) (reading : Reading) :
    (m.read reading).undisturbed = (m.undisturbed.read reading).undisturbed := by
  cases reading <;> rfl

theorem Metrics.undisturbed_readAll (m : Metrics) (readings : List Reading) :
    (m.readAll readings).undisturbed = (m.undisturbed.readAll readings).undisturbed := by
  induction readings generalizing m with
  | nil => rfl
  | cons reading rest ih =>
      calc
        ((m.read reading).readAll rest).undisturbed =
            ((m.read reading).undisturbed.readAll rest).undisturbed := ih (m.read reading)
        _ = ((m.undisturbed.read reading).undisturbed.readAll rest).undisturbed := by
            rw [undisturbed_read]
        _ = ((m.undisturbed.read reading).readAll rest).undisturbed :=
            (ih (m.undisturbed.read reading)).symm

namespace Engine

/-- Agreement in everything but the times of events and the count of refused ticks. -/
structure Alike (engine other : Engine) : Prop where
  temperature : engine.temperature = other.temperature
  audit : engine.audit = other.audit
  disputes : engine.disputes = other.disputes
  log : engine.log.numbered = other.log.numbered
  metrics : engine.metrics.map Metrics.undisturbed = other.metrics.map Metrics.undisturbed
  collaborators : engine.collaborators = other.collaborators

theorem Alike.refl (engine : Engine) : Alike engine engine :=
  ⟨rfl, rfl, rfl, rfl, rfl, rfl⟩

theorem Alike.symm {engine other : Engine} (h : Alike engine other) : Alike other engine :=
  ⟨h.temperature.symm, h.audit.symm, h.disputes.symm, h.log.symm, h.metrics.symm,
    h.collaborators.symm⟩

theorem Alike.trans {engine other third : Engine} (h : Alike engine other)
    (h' : Alike other third) : Alike engine third :=
  ⟨h.temperature.trans h'.temperature, h.audit.trans h'.audit, h.disputes.trans h'.disputes,
    h.log.trans h'.log, h.metrics.trans h'.metrics, h.collaborators.trans h'.collaborators⟩

theorem Alike.note {engine other : Engine} (h : Alike engine other) (now later : Timestamp)
    (events : List Event) (readings : List Reading) :
    Alike (engine.note now events readings) (other.note later events readings) := by
  refine ⟨h.temperature, h.audit, h.disputes, EventLog.numbered_append h.log now later events, ?_,
    h.collaborators⟩
  have hmetrics := h.metrics
  simp only [Engine.note, observe]
  cases hengine : engine.metrics with
  | none =>
      rw [hengine] at hmetrics
      cases hother : other.metrics with
      | none => rfl
      | some m =>
          rw [hother] at hmetrics
          cases hmetrics
  | some m =>
      rw [hengine] at hmetrics
      cases hother : other.metrics with
      | none =>
          rw [hother] at hmetrics
          cases hmetrics
      | some m' =>
          rw [hother] at hmetrics
          have hm : m.undisturbed = m'.undisturbed := Option.some.inj hmetrics
          simp only [Option.map_some]
          rw [Metrics.undisturbed_readAll, hm, ← Metrics.undisturbed_readAll]

theorem Alike.settleLedger {engine other : Engine} (h : Alike engine other)
    (outcome : Except CollaboratorError Ledger) :
    (engine.settleLedger outcome).2 = (other.settleLedger outcome).2 ∧
      Alike (engine.settleLedger outcome).1 (other.settleLedger outcome).1 := by
  cases outcome with
  | error cause => exact ⟨rfl, h⟩
  | ok ledger =>
      refine ⟨rfl, h.temperature, h.audit, h.disputes, h.log, h.metrics, ?_⟩
      simp only [Engine.settleLedger, withCollaborators, h.collaborators]

theorem Alike.settleBook {engine other : Engine} (h : Alike engine other)
    (outcome : Except CollaboratorError ReputationBook) :
    (engine.settleBook outcome).2 = (other.settleBook outcome).2 ∧
      Alike (engine.settleBook outcome).1 (other.settleBook outcome).1 := by
  cases outcome with
  | error cause => exact ⟨rfl, h⟩
  | ok book =>
      refine ⟨rfl, h.temperature, h.audit, h.disputes, h.log, h.metrics, ?_⟩
      simp only [Engine.settleBook, withCollaborators, h.collaborators]

theorem Alike.withCollaborators {engine other : Engine} (h : Alike engine other)
    (collaborators : Collaborators) :
    Alike (engine.withCollaborators collaborators) (other.withCollaborators collaborators) :=
  ⟨h.temperature, h.audit, h.disputes, h.log, h.metrics, rfl⟩

theorem Alike.actTemperature {engine other : Engine} (h : Alike engine other)
    (now later : Timestamp) (caller : Address) (command : Temperature.Command) :
    (engine.actTemperature now caller command).2 = (other.actTemperature later caller command).2 ∧
      Alike (engine.actTemperature now caller command).1
        (other.actTemperature later caller command).1 := by
  simp only [Engine.actTemperature, h.temperature]
  cases other.temperature with
  | none => exact ⟨rfl, h⟩
  | some controller =>
      refine ⟨rfl, Alike.note ?_ now later _ _⟩
      exact ⟨rfl, h.audit, h.disputes, h.log, h.metrics, h.collaborators⟩

theorem Alike.actAudit {engine other : Engine} (h : Alike engine other)
    (now later : Timestamp) (caller : Address) (command : Audit.Command) :
    (engine.actAudit now caller command).2 = (other.actAudit later caller command).2 ∧
      Alike (engine.actAudit now caller command).1 (other.actAudit later caller command).1 := by
  simp only [Engine.actAudit, h.audit, h.collaborators]
  cases other.audit with
  | none => exact ⟨rfl, h⟩
  | some scheduler =>
      refine ⟨rfl, Alike.note ?_ now later _ _⟩
      exact ⟨h.temperature, rfl, h.disputes, h.log, h.metrics, rfl⟩

theorem Alike.actDispute {engine other : Engine} (h : Alike engine other)
    (now later : Timestamp) (caller : Address) (command : Dispute.Command) :
    (engine.actDispute now caller command).2 = (other.actDispute later caller command).2 ∧
      Alike (engine.actDispute now caller command).1
        (other.actDispute later caller command).1 := by
  simp only [Engine.actDispute, h.disputes, h.collaborators]
  cases other.disputes with
  | none => exact ⟨rfl, h⟩
  | some resolver =>
      refine ⟨rfl, Alike.note ?_ now later _ _⟩
      exact ⟨h.temperature, h.audit, rfl, h.log, h.metrics, rfl⟩

/-- Engines that are alike answer every action alike, whatever the time, and stay alike. -/
theorem Alike.act {engine other : Engine} (h : Alike engine other) (now later : Timestamp)
    (action : Action) :
    (engine.act now action).2 = (other.act later action).2 ∧
      Alike (engine.act now action).1 (other.act later action).1 := by
  cases action with
  | temperature caller command => exact h.actTemperature now later caller command
  | audit caller command => exact h.actAudit now later caller command
  | dispute caller command => exact h.actDispute now later caller command
  | credit | freeze | thaw | transfer =>
      simp only [Engine.act, h.collaborators]
      exact h.settleLedger _
  | setScore | subtract | setOffline =>
      simp only [Engine.act, h.collaborators]
      exact h.settleBook _
  | register | addValidator | moveChain =>
      simp only [Engine.act, h.collaborators]
      exact ⟨trivial, h.withCollaborators _⟩
  | emit event times => exact ⟨rfl, h.note now later _ _⟩

end Engine

end Integrity
