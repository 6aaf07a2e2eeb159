import Integrity.Proofs.Audit.Control
import Integrity.Proofs.Dispute.Control
import Integrity.Proofs.Engine.History
import Integrity.Proofs.Temperature.Control

/-! # Control belongs to the authorities

Each subsystem answers to its authority, by itself and as a part of an engine, where it shares the
log with the others. An action that a subsystem refuses for want of authority leaves the whole
engine as it was. -/

namespace Integrity.Engine

open Operation

/-- An action, and the moment at which it is carried out. -/
structure Call where
  moment : Timestamp
  action : Action

/-- Carries out a call. The engine is all that it works on. -/
def Call.perform (call : Call) : Operation Engine Unit Failure Answer :=
  ExceptT.mk fun site =>
    let (engine, result) := site.state.act call.moment call.action
    (result, { site with state := engine })

theorem Call.run_perform (call : Call) (site : Site Engine Unit) :
    call.perform.run site =
      ((site.state.act call.moment call.action).2,
        { site with state := (site.state.act call.moment call.action).1 }) :=
  rfl

/-! ## What is asked of which subsystem -/

/-- Who asks the temperature controller for what. -/
def Action.temperature? : Action → Option (Address × Temperature.Command)
  | .temperature caller command => some (caller, command)
  | _ => none

/-- Who asks the audit scheduler for what. -/
def Action.audit? : Action → Option (Address × Audit.Command)
  | .audit caller command => some (caller, command)
  | _ => none

/-- Who asks the dispute resolver for what. -/
def Action.dispute? : Action → Option (Address × Dispute.Command)
  | .dispute caller command => some (caller, command)
  | _ => none

/-- The charter of the temperature controller of an engine. -/
def temperatureCharter : Charter Engine (Option Temperature.Controller) Call Failure :=
  Temperature.charter.within Engine.temperature (fun call => call.action.temperature?) .temperature

/-- The charter of the audit scheduler of an engine. -/
def auditCharter : Charter Engine (Option Audit.Scheduler) Call Failure :=
  Audit.charter.within Engine.audit (fun call => call.action.audit?) .audit

/-- The charter of the dispute resolver of an engine. -/
def disputeCharter : Charter Engine (Option Dispute.Resolver) Call Failure :=
  Dispute.charter.within Engine.disputes (fun call => call.action.dispute?) .dispute

/-! ## Actions on a subsystem -/

theorem carriesOut_temperature (moment : Timestamp) (caller : Address)
    (command : Temperature.Command) :
    Charter.CarriesOut Engine.temperature Failure.temperature
      (Call.perform ⟨moment, .temperature caller command⟩)
      fun small : Operation Temperature.Controller Unit Temperature.Error Temperature.Answer =>
        Temperature.charter.Governs (caller, command) small := by
  constructor
  case absent =>
    intro site hpart
    exact ⟨.absent .temperature, by simp [Call.run_perform, act, actTemperature, hpart]⟩
  case present =>
    intro site c hpart
    refine ⟨Temperature.Controller.perform caller command,
      Temperature.charter_governs (caller, command), .start c (), .temperature, rfl, ?_, ?_, ?_⟩
    · simp only [Call.run_perform, act, actTemperature, hpart]
    · simp only [Call.run_perform, act, actTemperature, hpart]
      rfl
    · intro hsame
      simp only [Call.run_perform, act, actTemperature, hpart, hsame]
      simp only [Site.start, note_nil, ← hpart]

theorem carriesOut_audit (moment : Timestamp) (caller : Address) (command : Audit.Command) :
    Charter.CarriesOut Engine.audit Failure.audit
      (Call.perform ⟨moment, .audit caller command⟩)
      fun small : Operation Audit.Scheduler ReputationBook Audit.Error Audit.Answer =>
        Audit.charter.Governs (caller, command) small := by
  constructor
  case absent =>
    intro site hpart
    exact ⟨.absent .audit, by simp [Call.run_perform, act, actAudit, hpart]⟩
  case present =>
    intro site s hpart
    refine ⟨Audit.Scheduler.perform (auditEnvironment site.state.collaborators) caller command,
      Audit.charter_governs _ (caller, command), .start s site.state.collaborators.book, .audit,
      rfl, ?_, ?_, ?_⟩
    · simp only [Call.run_perform, act, actAudit, hpart]
    · simp only [Call.run_perform, act, actAudit, hpart]
      rfl
    · intro hsame
      simp only [Call.run_perform, act, actAudit, hpart, hsame]
      simp only [Site.start, note_nil, ← hpart]

theorem carriesOut_dispute (moment : Timestamp) (caller : Address) (command : Dispute.Command) :
    Charter.CarriesOut Engine.disputes Failure.dispute
      (Call.perform ⟨moment, .dispute caller command⟩)
      fun small : Operation Dispute.Resolver Ledger Dispute.Error Dispute.Answer =>
        Dispute.charter.Governs (caller, command) small := by
  constructor
  case absent =>
    intro site hpart
    exact ⟨.absent .disputes, by simp [Call.run_perform, act, actDispute, hpart]⟩
  case present =>
    intro site r hpart
    refine ⟨Dispute.Resolver.perform (disputeEnvironment site.state.collaborators r) caller command,
      Dispute.charter_governs _ (caller, command), .start r site.state.collaborators.ledger,
      .dispute, rfl, ?_, ?_, ?_⟩
    · simp only [Call.run_perform, act, actDispute, hpart]
    · simp only [Call.run_perform, act, actDispute, hpart]
      rfl
    · intro hsame
      simp only [Call.run_perform, act, actDispute, hpart, hsame]
      simp only [Site.start, note_nil, ← hpart]

/-! ## Actions beside a subsystem -/

theorem settleLedger_subsystems (engine : Engine) (outcome : Except CollaboratorError Ledger) :
    (engine.settleLedger outcome).1.temperature = engine.temperature ∧
      (engine.settleLedger outcome).1.audit = engine.audit ∧
      (engine.settleLedger outcome).1.disputes = engine.disputes := by
  cases outcome <;> exact ⟨rfl, rfl, rfl⟩

theorem settleBook_subsystems (engine : Engine)
    (outcome : Except CollaboratorError ReputationBook) :
    (engine.settleBook outcome).1.temperature = engine.temperature ∧
      (engine.settleBook outcome).1.audit = engine.audit ∧
      (engine.settleBook outcome).1.disputes = engine.disputes := by
  cases outcome <;> exact ⟨rfl, rfl, rfl⟩

theorem actTemperature_others (engine : Engine) (now : Timestamp) (caller : Address)
    (command : Temperature.Command) :
    (engine.actTemperature now caller command).1.audit = engine.audit ∧
      (engine.actTemperature now caller command).1.disputes = engine.disputes := by
  rw [actTemperature]
  cases engine.temperature <;> exact ⟨rfl, rfl⟩

theorem actAudit_others (engine : Engine) (now : Timestamp) (caller : Address)
    (command : Audit.Command) :
    (engine.actAudit now caller command).1.temperature = engine.temperature ∧
      (engine.actAudit now caller command).1.disputes = engine.disputes := by
  rw [actAudit]
  cases engine.audit <;> exact ⟨rfl, rfl⟩

theorem actDispute_others (engine : Engine) (now : Timestamp) (caller : Address)
    (command : Dispute.Command) :
    (engine.actDispute now caller command).1.temperature = engine.temperature ∧
      (engine.actDispute now caller command).1.audit = engine.audit := by
  rw [actDispute]
  cases engine.disputes <;> exact ⟨rfl, rfl⟩

theorem temperature_act {action : Action} (h : action.temperature? = none) (engine : Engine)
    (now : Timestamp) : (engine.act now action).1.temperature = engine.temperature := by
  cases action with
  | temperature caller command => cases h
  | audit caller command => exact (actAudit_others engine now caller command).1
  | dispute caller command => exact (actDispute_others engine now caller command).1
  | credit | freeze | thaw | transfer => exact (settleLedger_subsystems engine _).1
  | setScore | subtract | setOffline => exact (settleBook_subsystems engine _).1
  | register | addValidator | moveChain | emit => rfl

theorem audit_act {action : Action} (h : action.audit? = none) (engine : Engine)
    (now : Timestamp) : (engine.act now action).1.audit = engine.audit := by
  cases action with
  | temperature caller command => exact (actTemperature_others engine now caller command).1
  | audit caller command => cases h
  | dispute caller command => exact (actDispute_others engine now caller command).2
  | credit | freeze | thaw | transfer => exact (settleLedger_subsystems engine _).2.1
  | setScore | subtract | setOffline => exact (settleBook_subsystems engine _).2.1
  | register | addValidator | moveChain | emit => rfl

theorem disputes_act {action : Action} (h : action.dispute? = none) (engine : Engine)
    (now : Timestamp) : (engine.act now action).1.disputes = engine.disputes := by
  cases action with
  | temperature caller command => exact (actTemperature_others engine now caller command).2
  | audit caller command => exact (actAudit_others engine now caller command).2
  | dispute caller command => cases h
  | credit | freeze | thaw | transfer => exact (settleLedger_subsystems engine _).2.2
  | setScore | subtract | setOffline => exact (settleBook_subsystems engine _).2.2
  | register | addValidator | moveChain | emit => rfl

/-! ## The charters govern every action -/

theorem temperatureCharter_governs (call : Call) :
    temperatureCharter.Governs call call.perform := by
  obtain ⟨moment, action⟩ := call
  cases hrequest : action.temperature? with
  | none =>
      apply Charter.governs_within_of_none
      · exact hrequest
      · exact fun site => temperature_act hrequest site.state moment
  | some request =>
      cases action with
      | temperature caller command =>
          refine Charter.Governs.within ?_ rfl (carriesOut_temperature moment caller command)
          exact fun _ _ => Failure.temperature.inj
      | _ => cases hrequest

theorem auditCharter_governs (call : Call) : auditCharter.Governs call call.perform := by
  obtain ⟨moment, action⟩ := call
  cases hrequest : action.audit? with
  | none =>
      apply Charter.governs_within_of_none
      · exact hrequest
      · exact fun site => audit_act hrequest site.state moment
  | some request =>
      cases action with
      | audit caller command =>
          refine Charter.Governs.within ?_ rfl (carriesOut_audit moment caller command)
          exact fun _ _ => Failure.audit.inj
      | _ => cases hrequest

theorem disputeCharter_governs (call : Call) : disputeCharter.Governs call call.perform := by
  obtain ⟨moment, action⟩ := call
  cases hrequest : action.dispute? with
  | none =>
      apply Charter.governs_within_of_none
      · exact hrequest
      · exact fun site => disputes_act hrequest site.state moment
  | some request =>
      cases action with
      | dispute caller command =>
          refine Charter.Governs.within ?_ rfl (carriesOut_dispute moment caller command)
          exact fun _ _ => Failure.dispute.inj
      | _ => cases hrequest

/-- Each of the three charters controls every run of its subsystem, whatever the subsystem works
with at each time; and all three control every run of an engine. -/
theorem controls_play :
    (∀ (start : Site Temperature.Controller Unit) (moves : List (Address × Temperature.Command)),
      Temperature.charter.Controls (fun move => Temperature.Controller.perform move.1 move.2)
        start moves) ∧
      (∀ (β : Type) (start : Site Audit.Scheduler β) (calls : List (Audit.Call β)),
        (Audit.charter.along Audit.Call.request).Controls Audit.Call.perform start calls) ∧
      (∀ (γ : Type) (start : Site Dispute.Resolver γ) (calls : List (Dispute.Call γ)),
        (Dispute.charter.along Dispute.Call.request).Controls Dispute.Call.perform start calls) ∧
      ∀ (start : Site Engine Unit) (calls : List Call),
        temperatureCharter.Controls Call.perform start calls ∧
          auditCharter.Controls Call.perform start calls ∧
          disputeCharter.Controls Call.perform start calls := by
  refine ⟨?_, ?_, ?_, ?_⟩
  · exact Charter.controls_of_governs Temperature.charter_governs
  · intro β
    apply Charter.controls_of_governs
    exact fun call => (Audit.charter_governs call.environment call.request).along
  · intro γ
    apply Charter.controls_of_governs
    exact fun call => (Dispute.charter_governs call.environment call.request).along
  · intro start calls
    exact ⟨Charter.controls_of_governs temperatureCharter_governs start calls,
      Charter.controls_of_governs auditCharter_governs start calls,
      Charter.controls_of_governs disputeCharter_governs start calls⟩

/-- The scheduler's authority goes to an heir, who gives it up. The four calls that come too early
or too late for their callers can be taken out; the stranger's call to the temperature controller is
refused by another authority and stays. -/
theorem controls_play_renounced :
    let holder := Address.filled 0xA1
    let heir := Address.filled 0xB2
    let stranger := Address.filled 0x5E
    let c : Temperature.Controller := ⟨⟨holder⟩, 100, ⟨1, 1000⟩, ⟨1, 0, 0⟩, 0, 0, Table.empty⟩
    let s : Audit.Scheduler := ⟨⟨holder⟩, holder, [holder], 10000, Amount.ofNat 5, true,
      .lastWriteWins, false, Table.empty, Audit.Stats.zero⟩
    let collaborators : Collaborators :=
      ⟨Ledger.empty, ReputationBook.empty, JobRegistry.empty, ValidatorPool.empty,
        ⟨Word.zero, 0⟩, Audit.constantSeed Word.zero⟩
    let engine : Engine := { bare collaborators with temperature := some c, audit := some s }
    let actions : List Action := [
      .audit stranger .pause,
      .audit holder (.transferAuthority heir),
      .audit holder .pause,
      .temperature stranger (.setTemperature 7),
      .audit heir (.setPolicy .rejectExisting),
      .audit heir (.transferAuthority Address.null),
      .audit heir .pause,
      .audit Address.null .pause]
    let calls := actions.map (Call.mk default)
    let start := Site.start engine ()
    let entries := start.history Call.perform calls
    let kept := entries.filter fun entry => !auditCharter.trespasses entry
    entries.map auditCharter.trespasses =
        [true, false, true, false, false, false, true, true] ∧
      entries.filterMap (auditCharter.succeeds? Call.perform) = [heir, Address.null] ∧
      start.history Call.perform (kept.map Prod.snd) = kept ∧
      start.play Call.perform (kept.map Prod.snd) = start.play Call.perform calls := by
  intro holder heir stranger c s collaborators engine actions calls start entries kept
  have hwithout : start.history Call.perform (kept.map Prod.snd) = kept ∧
      start.play Call.perform (kept.map Prod.snd) = start.play Call.perform calls := by
    have hcontrols := (controls_play.2.2.2 start calls).2.1
    with_reducible exact hcontrols.without auditCharter.trespasses fun _ _ h => h
  exact ⟨by decide +kernel, by decide +kernel, hwithout⟩

end Integrity.Engine
