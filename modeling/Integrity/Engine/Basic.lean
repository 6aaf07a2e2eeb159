import Integrity.Audit.Scheduler
import Integrity.Collaborator.Ledger
import Integrity.Collaborator.Reputation
import Integrity.Dispute.Resolver
import Integrity.Event.Log
import Integrity.Metrics
import Integrity.Temperature.Controller

/-!
# The engine

The three subsystems share one event log and work with collaborators that are kept in memory. An
action leaves what its operation leaves, whether that succeeds or fails: the state of its subsystem
and its collaborator, the events that it told, and the readings. A subsystem may be missing, and
then its actions fail.
-/

namespace Integrity

/-- The systems that the engine works with. -/
structure Collaborators where
  ledger : Ledger
  book : ReputationBook
  registry : JobRegistry
  pool : ValidatorPool
  chain : ChainSnapshot
  seeds : Audit.SeedSource

/-- The subsystems with what they share. -/
structure Engine where
  temperature : Option Temperature.Controller
  audit : Option Audit.Scheduler
  disputes : Option Dispute.Resolver
  log : EventLog
  metrics : Option Metrics
  collaborators : Collaborators

namespace Engine

/-- An engine without subsystems. -/
def bare (collaborators : Collaborators) : Engine :=
  ⟨none, none, none, EventLog.empty, none, collaborators⟩

/-- What can be done with an engine and its collaborators. -/
inductive Action where
  | temperature (caller : Address) (command : Temperature.Command)
  | audit (caller : Address) (command : Audit.Command)
  | dispute (caller : Address) (command : Dispute.Command)
  | credit (account : Address) (amount : Amount)
  | freeze (account : Address)
  | thaw (account : Address)
  | transfer (source target : Address) (amount : Amount)
  | setScore (agent : Address) (score : Nat)
  | subtract (agent : Address) (amount : Amount)
  | setOffline (offline : Bool)
  | register (job : JobId) (employer : Address)
  | addValidator (validator : Address)
  | moveChain (block : ChainSnapshot)
  | emit (event : Event) (times : Nat)

/-- The answer to an action. -/
inductive Answer where
  | done
  | temperature (answer : Temperature.Answer)
  | audit (answer : Audit.Answer)
  | dispute (answer : Dispute.Answer)
deriving DecidableEq

/-- Why an action failed. -/
inductive Failure where
  | absent (subsystem : Subsystem)
  | temperature (cause : Temperature.Error)
  | audit (cause : Audit.Error)
  | dispute (cause : Dispute.Error)
  | collaborator (cause : CollaboratorError)
deriving DecidableEq

/-- The metrics after readings, if they are kept. -/
def observe (engine : Engine) (readings : List Reading) : Engine :=
  { engine with metrics := engine.metrics.map fun m => m.readAll readings }

/-- The engine after events that were appended at a moment and the readings that came with them. -/
def note (engine : Engine) (now : Timestamp) (events : List Event) (readings : List Reading) :
    Engine :=
  { engine with log := engine.log.append now events }.observe readings

/-- What the audit scheduler works with. -/
def auditEnvironment (c : Collaborators) : Audit.Environment ReputationBook where
  seeds := c.seeds
  chain := c.chain
  sink := ReputationBook.subtract

/-- What the dispute resolver works with. -/
def disputeEnvironment (c : Collaborators) (r : Dispute.Resolver) : Dispute.Environment Ledger where
  jury := r.juries.jury c.pool
  employer := r.employers.employer c.registry
  pay := Ledger.transfer

/-- The engine with other collaborators. -/
def withCollaborators (engine : Engine) (collaborators : Collaborators) : Engine :=
  { engine with collaborators }

/-- The engine with another ledger, or the failure. -/
def settleLedger (engine : Engine) (outcome : Except CollaboratorError Ledger) :
    Engine × Except Failure Answer :=
  match outcome with
  | .error cause => (engine, .error (.collaborator cause))
  | .ok ledger => (engine.withCollaborators { engine.collaborators with ledger }, .ok .done)

/-- The engine with another reputation book, or the failure. -/
def settleBook (engine : Engine) (outcome : Except CollaboratorError ReputationBook) :
    Engine × Except Failure Answer :=
  match outcome with
  | .error cause => (engine, .error (.collaborator cause))
  | .ok book => (engine.withCollaborators { engine.collaborators with book }, .ok .done)

/-- An action on the temperature controller. -/
def actTemperature (engine : Engine) (now : Timestamp) (caller : Address)
    (command : Temperature.Command) : Engine × Except Failure Answer :=
  match engine.temperature with
  | none => (engine, .error (.absent .temperature))
  | some controller =>
    let (answer, site) :=
      (Temperature.Controller.perform caller command).run (.start controller ())
    ({ engine with temperature := some site.state }.note now site.events site.readings,
      (answer.map .temperature).mapError .temperature)

/-- An action on the audit scheduler. -/
def actAudit (engine : Engine) (now : Timestamp) (caller : Address) (command : Audit.Command) :
    Engine × Except Failure Answer :=
  match engine.audit with
  | none => (engine, .error (.absent .audit))
  | some scheduler =>
    let env := auditEnvironment engine.collaborators
    let (answer, site) :=
      (Audit.Scheduler.perform env caller command).run
        (.start scheduler engine.collaborators.book)
    ({ engine with
        audit := some site.state
        collaborators := { engine.collaborators with book := site.outside } }.note now
        site.events site.readings,
      (answer.map .audit).mapError .audit)

/-- An action on the dispute resolver. -/
def actDispute (engine : Engine) (now : Timestamp) (caller : Address)
    (command : Dispute.Command) : Engine × Except Failure Answer :=
  match engine.disputes with
  | none => (engine, .error (.absent .disputes))
  | some resolver =>
    let env := disputeEnvironment engine.collaborators resolver
    let (answer, site) :=
      (Dispute.Resolver.perform env caller command).run
        (.start resolver engine.collaborators.ledger)
    ({ engine with
        disputes := some site.state
        collaborators := { engine.collaborators with ledger := site.outside } }.note now
        site.events site.readings,
      (answer.map .dispute).mapError .dispute)

/-- Carries out an action at a moment. -/
def act (engine : Engine) (now : Timestamp) : Action → Engine × Except Failure Answer
  | .temperature caller command => engine.actTemperature now caller command
  | .audit caller command => engine.actAudit now caller command
  | .dispute caller command => engine.actDispute now caller command
  | .credit account amount =>
    engine.settleLedger (engine.collaborators.ledger.credit account amount)
  | .freeze account => engine.settleLedger (.ok (engine.collaborators.ledger.freeze account))
  | .thaw account => engine.settleLedger (.ok (engine.collaborators.ledger.thaw account))
  | .transfer source target amount =>
    engine.settleLedger (engine.collaborators.ledger.transfer source target amount)
  | .setScore agent score =>
    engine.settleBook (.ok (engine.collaborators.book.setScore agent score))
  | .subtract agent amount => engine.settleBook (engine.collaborators.book.subtract agent amount)
  | .setOffline offline => engine.settleBook (.ok (engine.collaborators.book.setOffline offline))
  | .register job employer =>
    (engine.withCollaborators
      { engine.collaborators with
        registry := engine.collaborators.registry.register job employer }, .ok .done)
  | .addValidator validator =>
    (engine.withCollaborators
      { engine.collaborators with pool := engine.collaborators.pool.add validator }, .ok .done)
  | .moveChain block =>
    (engine.withCollaborators { engine.collaborators with chain := block }, .ok .done)
  | .emit event times => (engine.note now (List.replicate times event) [], .ok .done)

end Engine

end Integrity
