import Integrity.Proofs.Audit.Step
import Integrity.Proofs.Dispute.Step
import Integrity.Proofs.Engine.History
import Integrity.Proofs.Temperature.Replay

/-! # The log of an engine tells the whole state of its temperature controller

All subsystems write into one log. What the others write there is not about the temperature, so the
records about the temperature are those of the controller, in its order, and replaying them gives
the controller back. -/

namespace Integrity.Engine

open Temperature (Controller)

/-- An action that writes an event about a subsystem into the log, past the subsystem. -/
def Action.Forges (subsystem : Subsystem) : Action → Prop
  | .emit event _ => event.subsystem = subsystem
  | _ => False

/-! ## One action -/

/-- The engine went on from one controller to another, and its log tells how. -/
structure Advances (before : Engine) (c : Controller) (after : Engine) (later : Controller) :
    Prop where
  temperature : after.temperature = some later
  events : ∃ new, after.log.eventsOf .temperature = before.log.eventsOf .temperature ++ new ∧
    c.Retells new later

theorem Advances.trans {first second third : Engine} {c middle later : Controller}
    (h : Advances first c second middle) (hnext : Advances second middle third later) :
    Advances first c third later := by
  obtain ⟨-, new, hnew, hretells⟩ := h
  obtain ⟨hlater, more, hmore, hagain⟩ := hnext
  exact ⟨hlater, new ++ more, by rw [hmore, hnew, List.append_assoc], hretells.append hagain⟩

theorem advances_of_eq {before after : Engine} {c : Controller} (hc : before.temperature = some c)
    (htemperature : after.temperature = before.temperature)
    (htold : after.log.eventsOf .temperature = before.log.eventsOf .temperature) :
    Advances before c after c :=
  ⟨htemperature.trans hc, [], by rw [htold, List.append_nil], Controller.retells_nil c⟩

/-- What is noted of another subsystem leaves the controller and what the log tells of it. -/
theorem advances_note {before engine : Engine} {c : Controller}
    (hc : before.temperature = some c) (htemperature : engine.temperature = before.temperature)
    (hlog : engine.log = before.log) (now : Timestamp) {events : List Event}
    (readings : List Reading) (hevents : ∀ event ∈ events, event.subsystem ≠ .temperature) :
    Advances before c (engine.note now events readings) c := by
  refine advances_of_eq hc htemperature ?_
  rw [note, observe, hlog]
  exact EventLog.eventsOf_append_other _ now hevents

theorem advances_actTemperature {engine : Engine} {c : Controller}
    (hc : engine.temperature = some c) (now : Timestamp) (caller : Address)
    (command : Temperature.Command) :
    ∃ later, Advances engine c (engine.actTemperature now caller command).1 later := by
  obtain ⟨new, hnew, hretells⟩ := (Temperature.perform_step caller command (.start c ())).retells
  rw [Site.start, List.nil_append] at hnew
  refine ⟨_, ?_, new, ?_, hretells⟩
  · simp only [actTemperature, hc]
    rfl
  · simp only [actTemperature, hc, note, observe, Site.start, hnew]
    exact EventLog.eventsOf_append_self _ now hretells.subsystem

theorem advances_actAudit {engine : Engine} {c : Controller} (hc : engine.temperature = some c)
    (now : Timestamp) (caller : Address) (command : Audit.Command) :
    Advances engine c (engine.actAudit now caller command).1 c := by
  cases haudit : engine.audit with
  | none =>
      simp only [actAudit, haudit]
      exact advances_of_eq hc rfl rfl
  | some scheduler =>
      obtain ⟨new, hnew, hsubsystem⟩ :=
        (Audit.perform_step (auditEnvironment engine.collaborators) caller command
          (.start scheduler engine.collaborators.book)).subsystem
      rw [Site.start, List.nil_append] at hnew
      simp only [actAudit, haudit]
      apply advances_note hc
      · rfl
      · rfl
      · intro event hevent
        rw [Site.start, hnew] at hevent
        simp [hsubsystem event hevent]

theorem advances_actDispute {engine : Engine} {c : Controller} (hc : engine.temperature = some c)
    (now : Timestamp) (caller : Address) (command : Dispute.Command) :
    Advances engine c (engine.actDispute now caller command).1 c := by
  cases hdisputes : engine.disputes with
  | none =>
      simp only [actDispute, hdisputes]
      exact advances_of_eq hc rfl rfl
  | some resolver =>
      obtain ⟨new, hnew, hsubsystem⟩ :=
        (Dispute.perform_step (disputeEnvironment engine.collaborators resolver) caller command
          (.start resolver engine.collaborators.ledger)).subsystem
      rw [Site.start, List.nil_append] at hnew
      simp only [actDispute, hdisputes]
      apply advances_note hc
      · rfl
      · rfl
      · intro event hevent
        rw [Site.start, hnew] at hevent
        simp [hsubsystem event hevent]

theorem advances_settleLedger {engine : Engine} {c : Controller} (hc : engine.temperature = some c)
    (outcome : Except CollaboratorError Ledger) :
    Advances engine c (engine.settleLedger outcome).1 c := by
  cases outcome <;> exact advances_of_eq hc rfl rfl

theorem advances_settleBook {engine : Engine} {c : Controller} (hc : engine.temperature = some c)
    (outcome : Except CollaboratorError ReputationBook) :
    Advances engine c (engine.settleBook outcome).1 c := by
  cases outcome <;> exact advances_of_eq hc rfl rfl

/-- An action makes the controller go on as the log tells, unless it forges what the log tells. -/
theorem advances_act {engine : Engine} {c : Controller} (hc : engine.temperature = some c)
    (now : Timestamp) {action : Action} (hforges : ¬action.Forges .temperature) :
    ∃ later, Advances engine c (engine.act now action).1 later := by
  cases action with
  | temperature caller command => exact advances_actTemperature hc now caller command
  | audit caller command => exact ⟨c, advances_actAudit hc now caller command⟩
  | dispute caller command => exact ⟨c, advances_actDispute hc now caller command⟩
  | credit account amount => exact ⟨c, advances_settleLedger hc _⟩
  | freeze account => exact ⟨c, advances_settleLedger hc _⟩
  | thaw account => exact ⟨c, advances_settleLedger hc _⟩
  | transfer source target amount => exact ⟨c, advances_settleLedger hc _⟩
  | setScore agent score => exact ⟨c, advances_settleBook hc _⟩
  | subtract agent amount => exact ⟨c, advances_settleBook hc _⟩
  | setOffline offline => exact ⟨c, advances_settleBook hc _⟩
  | register job employer => exact ⟨c, advances_of_eq hc rfl rfl⟩
  | addValidator validator => exact ⟨c, advances_of_eq hc rfl rfl⟩
  | moveChain block => exact ⟨c, advances_of_eq hc rfl rfl⟩
  | emit event times =>
      refine ⟨c, advances_note hc rfl rfl now _ ?_⟩
      intro other hother
      obtain ⟨-, rfl⟩ := List.mem_replicate.mp hother
      exact hforges

/-! ## Whole histories -/

theorem advances_after {engine : Engine} {c : Controller} (hc : engine.temperature = some c)
    (clock : Nat → Timestamp) {actions : List Action}
    (hactions : ∀ action ∈ actions, ¬action.Forges .temperature) :
    ∃ later, Advances engine c (engine.after clock actions) later := by
  induction actions generalizing engine c clock with
  | nil => exact ⟨c, advances_of_eq hc rfl rfl⟩
  | cons action rest ih =>
      obtain ⟨hfirst, hrest⟩ := List.forall_mem_cons.mp hactions
      obtain ⟨middle, hadvances⟩ := advances_act hc (clock 0) hfirst
      obtain ⟨later, hagain⟩ := ih hadvances.temperature (fun n => clock (n + 1)) hrest
      exact ⟨later, hadvances.trans hagain⟩

/-- Take an engine whose log says nothing yet about the temperature, and any history in which nobody
writes such events past the controller. The events about the temperature, replayed from the
controller at the start, give the controller at the end; and what an event says that it replaces is
what the replay has at that place. -/
theorem temperature_eq_replay {engine : Engine} {start : Controller}
    (hstart : engine.temperature = some start)
    (hlog : engine.log.historyOf .temperature = []) (clock : Nat → Timestamp)
    {actions : List Action} (hactions : ∀ action ∈ actions, ¬action.Forges .temperature) :
    let later := engine.after clock actions
    let events := (later.log.historyOf .temperature).map EventRecord.event
    later.temperature = some (start.replay events) ∧
      (∀ before previous temperature after,
        events = before ++ .temperatureUpdated previous temperature :: after →
          previous = (start.replay before).temperature) ∧
      ∀ before subsystem previous new after,
        events = before ++ .authorityTransferred subsystem previous new :: after →
          previous = (start.replay before).authority.holder := by
  intro later events
  obtain ⟨c, hc, new, hnew, hretells⟩ := advances_after hstart clock hactions
  have hnothing : engine.log.eventsOf .temperature = [] := by
    rw [EventLog.eventsOf, hlog, List.map_nil]
  have hevents : events = new := by
    rwa [hnothing, List.nil_append] at hnew
  rw [hevents]
  refine ⟨?_, ?_, ?_⟩
  · rw [hretells.replay]
    exact hc
  · intro before previous temperature after hsplit
    exact hretells.recalls before _ after hsplit
  · intro before subsystem previous new' after hsplit
    exact hretells.recalls before _ after hsplit

/-- New bounds move the temperature of one role and not of the other, and the log of an engine with
disputes tells so between what the resolver tells. -/
theorem temperature_eq_replay_bounds :
    let holder := Address.filled 0xA1
    let other := Address.filled 0x5E
    let bond := Amount.ofNat 10
    let start : Controller := ⟨⟨holder⟩, 100, ⟨1, 1000⟩, ⟨1, 0, 0⟩, 0, 0, Table.empty⟩
    let resolver := Dispute.Resolver.make holder ⟨bond, 0, holder, other⟩ .pool .registry
    let collaborators : Collaborators :=
      ⟨Ledger.empty, ReputationBook.empty, JobRegistry.empty, ValidatorPool.empty,
        ⟨Word.zero, 0⟩, Audit.constantSeed Word.zero⟩
    let engine : Engine :=
      { bare collaborators with temperature := some start, disputes := some resolver }
    let actions : List Action := [
      .temperature holder (.setOverride .agent 900),
      .temperature holder (.setOverride .operator 20),
      .dispute holder (.setMinJurySize 3),
      .temperature other (.setTemperature 7),
      .temperature holder (.setBounds 5 50),
      .temperature holder (.tick ⟨-90, 0, 0⟩),
      .temperature holder (.transferAuthority other)]
    let later := engine.after (fun _ => default) actions
    let events := (later.log.historyOf .temperature).map EventRecord.event
    engine.temperature = some start ∧ engine.log.historyOf .temperature = [] ∧
      (∀ action ∈ actions, ¬action.Forges .temperature) ∧ later.log.size = 8 ∧
      events.length = 7 ∧ Event.roleOverrideSet .agent 50 ∈ events ∧
      later.temperature = some (start.replay events) := by
  intro holder other bond start resolver collaborators engine actions later events
  have hactions : ∀ action ∈ actions, ¬action.Forges .temperature := by
    simp [actions, Action.Forges]
  have hreplay : later.temperature = some (start.replay events) := by
    with_reducible exact (temperature_eq_replay rfl rfl _ hactions).1
  exact ⟨rfl, rfl, hactions, by decide +kernel, by decide +kernel, by decide +kernel, hreplay⟩

end Integrity.Engine
