import Integrity.Address
import Integrity.Amount
import Integrity.Job
import Integrity.Role

/-!
# Events

Every change of state is told by events. Each event belongs to one of the three subsystems.
-/

namespace Integrity

/-- The parts of the system that emit events. -/
inductive Subsystem where
  | temperature
  | audit
  | disputes
deriving DecidableEq, Repr, Inhabited

namespace Subsystem

/-- All subsystems. -/
def all : List Subsystem :=
  [temperature, audit, disputes]

/-- The name of a subsystem. -/
def name : Subsystem → String
  | temperature => "temperature"
  | audit => "audit"
  | disputes => "disputes"

/-- The subsystem with exactly this name. -/
def ofName? (name : String) : Option Subsystem :=
  all.find? fun subsystem => subsystem.name == name

end Subsystem

/-- What happened. -/
inductive Event where
  | authorityTransferred (subsystem : Subsystem) (previous new : Address)
  | gainsUpdated (kp ki kd : Int)
  | boundsUpdated (min max : Int)
  | temperatureUpdated (previous temperature : Int)
  | temperatureTicked (error integral derivative delta temperature : Int)
  | roleOverrideSet (role : Role) (temperature : Int)
  | roleOverrideCleared (role : Role)
  | notifierUpdated (notifier : Address)
  | penaltySinkUpdated (configured : Bool)
  | auditProbabilityUpdated (probability : UInt16)
  | penaltyAmountUpdated (amount : Amount)
  | auditorUpdated (auditor : Address) (allowed : Bool)
  | reschedulePolicyUpdated (policy : String)
  | auditPaused
  | auditUnpaused
  | auditScheduled (job : JobId) (agent : Address) (seed : String) (replacedExisting : Bool)
  | auditRecorded (job : JobId) (auditor : Address) (passed : Bool) (details : String)
  | agentPenalized (job : JobId) (agent : Address) (amount : Amount)
  | appealBondUpdated (amount : Amount)
  | minJurySizeUpdated (size : Nat)
  | resolutionAuthorityUpdated (authority : Address)
  | validatorSelectorUpdated
  | employerLookupUpdated
  | disputeRaised (job : JobId) (appellant : Address) (bond : Amount) (jurySize : Nat)
  | disputeResolved (job : JobId) (employerWins : Bool) (recipient : Address) (bond : Amount)
deriving DecidableEq

/-- The subsystem an event belongs to. -/
def Event.subsystem : Event → Subsystem
  | .authorityTransferred subsystem _ _ => subsystem
  | .gainsUpdated .. | .boundsUpdated .. | .temperatureUpdated .. | .temperatureTicked ..
  | .roleOverrideSet .. | .roleOverrideCleared .. => .temperature
  | .notifierUpdated .. | .penaltySinkUpdated .. | .auditProbabilityUpdated ..
  | .penaltyAmountUpdated .. | .auditorUpdated .. | .reschedulePolicyUpdated ..
  | .auditPaused | .auditUnpaused | .auditScheduled .. | .auditRecorded ..
  | .agentPenalized .. => .audit
  | .appealBondUpdated .. | .minJurySizeUpdated .. | .resolutionAuthorityUpdated ..
  | .validatorSelectorUpdated | .employerLookupUpdated | .disputeRaised ..
  | .disputeResolved .. => .disputes

end Integrity
