import Integrity.Proofs.Audit.Step
import Integrity.Proofs.Dispute.Step
import Integrity.Proofs.Engine.History
import Integrity.Proofs.Temperature.Replay

/-! # Steps of an engine

An action carries an operation of one subsystem out and notes what it told, or it arranges the
collaborators and nothing is noted, or it writes into the log. -/

namespace Integrity

open Operation

theorem Temperature.step_of_run {caller : Address} {command : Command}
    {answer : Except Error Answer} {before after : Site Controller Unit}
    (h : (Controller.perform caller command).run before = (answer, after)) :
    Step caller before command answer after := by
  simpa only [h] using perform_step caller command before

theorem Audit.step_of_run {β : Type} {env : Environment β} {caller : Address} {command : Command}
    {answer : Except Error Answer} {before after : Site Scheduler β}
    (h : (Scheduler.perform env caller command).run before = (answer, after)) :
    Step env caller before command answer after := by
  simpa only [h] using perform_step env caller command before

theorem Dispute.step_of_run {γ : Type} {env : Environment γ} {caller : Address}
    {command : Command} {answer : Except Error Answer} {before after : Site Resolver γ}
    (h : (Resolver.perform env caller command).run before = (answer, after)) :
    Step env caller before command answer after := by
  simpa only [h] using perform_step env caller command before

/-! ## What an operation tells the engine -/

theorem Temperature.Step.subsystem_of_start {caller : Address} {command : Command}
    {answer : Except Error Answer} {c : Controller} {site : Site Controller Unit}
    (h : Step caller (.start c ()) command answer site) :
    ∀ event ∈ site.events, event.subsystem = .temperature := by
  obtain ⟨new, hnew, hretells⟩ := h.retells
  rw [hnew]
  exact hretells.subsystem

theorem Audit.Step.subsystem_of_start {β : Type} {env : Environment β} {caller : Address}
    {command : Command} {answer : Except Error Answer} {s : Scheduler} {book : β}
    {site : Site Scheduler β} (h : Step env caller (.start s book) command answer site) :
    ∀ event ∈ site.events, event.subsystem = .audit := by
  obtain ⟨new, hnew, hsubsystem⟩ := h.subsystem
  rwa [hnew]

theorem Dispute.Step.subsystem_of_start {γ : Type} {env : Environment γ} {caller : Address}
    {command : Command} {answer : Except Error Answer} {r : Resolver} {ledger : γ}
    {site : Site Resolver γ} (h : Step env caller (.start r ledger) command answer site) :
    ∀ event ∈ site.events, event.subsystem = .disputes := by
  obtain ⟨new, hnew, hsubsystem⟩ := h.subsystem
  rwa [hnew]

/-- Events of one subsystem are not of another. -/
theorem Event.subsystem_ne {events : List Event} {subsystem other : Subsystem}
    (h : ∀ event ∈ events, event.subsystem = subsystem) (hother : subsystem ≠ other) :
    ∀ event ∈ events, event.subsystem ≠ other := by
  intro event hevent
  rwa [h event hevent]

theorem Event.subsystem_of_mem_replicate {event : Event} {times : Nat} :
    ∀ other ∈ List.replicate times event, other.subsystem = event.subsystem := by
  intro other hother
  obtain ⟨-, rfl⟩ := List.mem_replicate.mp hother
  rfl

namespace Engine

/-- Whether an action is for a collaborator only. -/
def Action.isArrangement : Action → Bool
  | .temperature _ _ | .audit _ _ | .dispute _ _ | .emit _ _ => false
  | _ => true

/-- What one action may do: how it ends, and the engine that it leaves. -/
inductive Step (before : Engine) (now : Timestamp) :
    Action → Except Failure Answer → Engine → Prop
  | absent (action : Action) (subsystem : Subsystem) :
      Step before now action (.error (.absent subsystem)) before
  | temperature {caller : Address} {command : Temperature.Command}
      {c : Temperature.Controller} {answer : Except Temperature.Error Temperature.Answer}
      {site : Site Temperature.Controller Unit} (hc : before.temperature = some c)
      (hrun : (Temperature.Controller.perform caller command).run (.start c ()) =
        (answer, site)) :
      Step before now (.temperature caller command)
        ((answer.map .temperature).mapError .temperature)
        ({ before with temperature := some site.state }.note now site.events site.readings)
  | audit {caller : Address} {command : Audit.Command} {s : Audit.Scheduler}
      {answer : Except Audit.Error Audit.Answer} {site : Site Audit.Scheduler ReputationBook}
      (hs : before.audit = some s)
      (hrun : (Audit.Scheduler.perform (auditEnvironment before.collaborators) caller command).run
        (.start s before.collaborators.book) = (answer, site)) :
      Step before now (.audit caller command) ((answer.map .audit).mapError .audit)
        ({ before with
            audit := some site.state
            collaborators := { before.collaborators with book := site.outside } }.note now
          site.events site.readings)
  | dispute {caller : Address} {command : Dispute.Command} {r : Dispute.Resolver}
      {answer : Except Dispute.Error Dispute.Answer} {site : Site Dispute.Resolver Ledger}
      (hr : before.disputes = some r)
      (hrun : (Dispute.Resolver.perform (disputeEnvironment before.collaborators r) caller
        command).run (.start r before.collaborators.ledger) = (answer, site)) :
      Step before now (.dispute caller command) ((answer.map .dispute).mapError .dispute)
        ({ before with
            disputes := some site.state
            collaborators := { before.collaborators with ledger := site.outside } }.note now
          site.events site.readings)
  | declined (action : Action) (cause : CollaboratorError) :
      Step before now action (.error (.collaborator cause)) before
  | arranged {action : Action} (haction : action.isArrangement = true)
      (collaborators : Collaborators) :
      Step before now action (.ok .done) (before.withCollaborators collaborators)
  | told (event : Event) (times : Nat) :
      Step before now (.emit event times) (.ok .done)
        (before.note now (List.replicate times event) [])

variable (engine : Engine) (now : Timestamp)

theorem step_actTemperature (caller : Address) (command : Temperature.Command) :
    Step engine now (.temperature caller command) (engine.actTemperature now caller command).2
      (engine.actTemperature now caller command).1 := by
  cases hc : engine.temperature with
  | none =>
      simp only [actTemperature, hc]
      exact .absent _ _
  | some c =>
      simp only [actTemperature, hc]
      exact .temperature hc rfl

theorem step_actAudit (caller : Address) (command : Audit.Command) :
    Step engine now (.audit caller command) (engine.actAudit now caller command).2
      (engine.actAudit now caller command).1 := by
  cases hs : engine.audit with
  | none =>
      simp only [actAudit, hs]
      exact .absent _ _
  | some s =>
      simp only [actAudit, hs]
      exact .audit hs rfl

theorem step_actDispute (caller : Address) (command : Dispute.Command) :
    Step engine now (.dispute caller command) (engine.actDispute now caller command).2
      (engine.actDispute now caller command).1 := by
  cases hr : engine.disputes with
  | none =>
      simp only [actDispute, hr]
      exact .absent _ _
  | some r =>
      simp only [actDispute, hr]
      exact .dispute hr rfl

theorem step_settleLedger {action : Action} (haction : action.isArrangement = true)
    (outcome : Except CollaboratorError Ledger) :
    Step engine now action (engine.settleLedger outcome).2 (engine.settleLedger outcome).1 := by
  cases outcome with
  | error cause => exact .declined action cause
  | ok ledger => exact .arranged haction _

theorem step_settleBook {action : Action} (haction : action.isArrangement = true)
    (outcome : Except CollaboratorError ReputationBook) :
    Step engine now action (engine.settleBook outcome).2 (engine.settleBook outcome).1 := by
  cases outcome with
  | error cause => exact .declined action cause
  | ok book => exact .arranged haction _

/-- Every action takes one of the steps. -/
theorem act_step (action : Action) :
    Step engine now action (engine.act now action).2 (engine.act now action).1 := by
  cases action with
  | temperature caller command => exact step_actTemperature engine now caller command
  | audit caller command => exact step_actAudit engine now caller command
  | dispute caller command => exact step_actDispute engine now caller command
  | credit | freeze | thaw | transfer => exact step_settleLedger engine now rfl _
  | setScore | subtract | setOffline => exact step_settleBook engine now rfl _
  | register | addValidator | moveChain => exact .arranged rfl _
  | emit event times => exact .told event times

end Engine

end Integrity
