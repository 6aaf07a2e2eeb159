import Integrity.Event

/-!
# The shape of events

An event is a kind and the values of the fields that its kind has. The names of kinds and fields
are those under which events are written.
-/

namespace Integrity

/-- What a field holds. -/
inductive FieldKind where
  | integer
  | word
  | half
  | flag
  | text
  | address
  | role
  | subsystem
deriving DecidableEq, Repr

/-- The value of a field. -/
inductive FieldValue where
  | integer (value : Int)
  | word (value : Nat)
  | half (value : UInt16)
  | flag (value : Bool)
  | text (value : String)
  | address (value : Address)
  | role (value : Role)
  | subsystem (value : Subsystem)
deriving DecidableEq

/-- What a value is. -/
def FieldValue.kind : FieldValue → FieldKind
  | integer _ => .integer
  | word _ => .word
  | half _ => .half
  | flag _ => .flag
  | text _ => .text
  | address _ => .address
  | role _ => .role
  | subsystem _ => .subsystem

/-- The kinds of events. -/
inductive EventKind where
  | authorityTransferred
  | gainsUpdated
  | boundsUpdated
  | temperatureUpdated
  | temperatureTicked
  | roleOverrideSet
  | roleOverrideCleared
  | notifierUpdated
  | penaltySinkUpdated
  | auditProbabilityUpdated
  | penaltyAmountUpdated
  | auditorUpdated
  | reschedulePolicyUpdated
  | auditPaused
  | auditUnpaused
  | auditScheduled
  | auditRecorded
  | agentPenalized
  | appealBondUpdated
  | minJurySizeUpdated
  | resolutionAuthorityUpdated
  | validatorSelectorUpdated
  | employerLookupUpdated
  | disputeRaised
  | disputeResolved
deriving DecidableEq, Repr

namespace EventKind

/-- All kinds of events. -/
def all : List EventKind := [
  authorityTransferred, gainsUpdated, boundsUpdated, temperatureUpdated, temperatureTicked,
  roleOverrideSet, roleOverrideCleared, notifierUpdated, penaltySinkUpdated,
  auditProbabilityUpdated, penaltyAmountUpdated, auditorUpdated, reschedulePolicyUpdated,
  auditPaused, auditUnpaused, auditScheduled, auditRecorded, agentPenalized, appealBondUpdated,
  minJurySizeUpdated, resolutionAuthorityUpdated, validatorSelectorUpdated, employerLookupUpdated,
  disputeRaised, disputeResolved]

/-- The name of a kind. -/
def name : EventKind → String
  | authorityTransferred => "AuthorityTransferred"
  | gainsUpdated => "PidGainsUpdated"
  | boundsUpdated => "BoundsUpdated"
  | temperatureUpdated => "TemperatureUpdated"
  | temperatureTicked => "TemperatureTicked"
  | roleOverrideSet => "RoleOverrideSet"
  | roleOverrideCleared => "RoleOverrideCleared"
  | notifierUpdated => "NotifierUpdated"
  | penaltySinkUpdated => "PenaltySinkUpdated"
  | auditProbabilityUpdated => "AuditProbabilityUpdated"
  | penaltyAmountUpdated => "PenaltyAmountUpdated"
  | auditorUpdated => "AuditorUpdated"
  | reschedulePolicyUpdated => "ReschedulePolicyUpdated"
  | auditPaused => "AuditPaused"
  | auditUnpaused => "AuditUnpaused"
  | auditScheduled => "AuditScheduled"
  | auditRecorded => "AuditRecorded"
  | agentPenalized => "AgentPenalized"
  | appealBondUpdated => "AppealBondUpdated"
  | minJurySizeUpdated => "MinJurySizeUpdated"
  | resolutionAuthorityUpdated => "ResolutionAuthorityUpdated"
  | validatorSelectorUpdated => "ValidatorSelectorUpdated"
  | employerLookupUpdated => "EmployerLookupUpdated"
  | disputeRaised => "DisputeRaised"
  | disputeResolved => "DisputeResolved"

/-- The kind with exactly this name. -/
def ofName? (name : String) : Option EventKind :=
  all.find? fun kind => kind.name == name

/-- The fields of a kind, in the order in which they are written. -/
def fields : EventKind → List (String × FieldKind)
  | authorityTransferred => [("module", .subsystem), ("previous", .address), ("new", .address)]
  | gainsUpdated => [("kp", .integer), ("ki", .integer), ("kd", .integer)]
  | boundsUpdated => [("min", .integer), ("max", .integer)]
  | temperatureUpdated => [("previous", .integer), ("temperature", .integer)]
  | temperatureTicked =>
    [("error", .integer), ("integral", .integer), ("derivative", .integer), ("delta", .integer),
      ("temperature", .integer)]
  | roleOverrideSet => [("role", .role), ("temperature", .integer)]
  | roleOverrideCleared => [("role", .role)]
  | notifierUpdated => [("notifier", .address)]
  | penaltySinkUpdated => [("configured", .flag)]
  | auditProbabilityUpdated => [("probability_bps", .half)]
  | penaltyAmountUpdated => [("amount", .word)]
  | auditorUpdated => [("auditor", .address), ("allowed", .flag)]
  | reschedulePolicyUpdated => [("policy", .text)]
  | auditPaused => []
  | auditUnpaused => []
  | auditScheduled =>
    [("job_id", .word), ("agent", .address), ("seed", .text), ("replaced_existing", .flag)]
  | auditRecorded =>
    [("job_id", .word), ("auditor", .address), ("passed", .flag), ("details", .text)]
  | agentPenalized => [("job_id", .word), ("agent", .address), ("amount", .word)]
  | appealBondUpdated => [("amount", .word)]
  | minJurySizeUpdated => [("size", .word)]
  | resolutionAuthorityUpdated => [("authority", .address)]
  | validatorSelectorUpdated => []
  | employerLookupUpdated => []
  | disputeRaised =>
    [("job_id", .word), ("appellant", .address), ("bond", .word), ("jury_size", .word)]
  | disputeResolved =>
    [("job_id", .word), ("employer_wins", .flag), ("recipient", .address), ("bond", .word)]

end EventKind

namespace Event

/-- The kind of an event. -/
def kind : Event → EventKind
  | authorityTransferred .. => .authorityTransferred
  | gainsUpdated .. => .gainsUpdated
  | boundsUpdated .. => .boundsUpdated
  | temperatureUpdated .. => .temperatureUpdated
  | temperatureTicked .. => .temperatureTicked
  | roleOverrideSet .. => .roleOverrideSet
  | roleOverrideCleared .. => .roleOverrideCleared
  | notifierUpdated .. => .notifierUpdated
  | penaltySinkUpdated .. => .penaltySinkUpdated
  | auditProbabilityUpdated .. => .auditProbabilityUpdated
  | penaltyAmountUpdated .. => .penaltyAmountUpdated
  | auditorUpdated .. => .auditorUpdated
  | reschedulePolicyUpdated .. => .reschedulePolicyUpdated
  | auditPaused => .auditPaused
  | auditUnpaused => .auditUnpaused
  | auditScheduled .. => .auditScheduled
  | auditRecorded .. => .auditRecorded
  | agentPenalized .. => .agentPenalized
  | appealBondUpdated .. => .appealBondUpdated
  | minJurySizeUpdated .. => .minJurySizeUpdated
  | resolutionAuthorityUpdated .. => .resolutionAuthorityUpdated
  | validatorSelectorUpdated => .validatorSelectorUpdated
  | employerLookupUpdated => .employerLookupUpdated
  | disputeRaised .. => .disputeRaised
  | disputeResolved .. => .disputeResolved

/-- The values of the fields of an event, in their order. -/
def values : Event → List FieldValue
  | authorityTransferred subsystem previous new =>
    [.subsystem subsystem, .address previous, .address new]
  | gainsUpdated kp ki kd => [.integer kp, .integer ki, .integer kd]
  | boundsUpdated min max => [.integer min, .integer max]
  | temperatureUpdated previous temperature => [.integer previous, .integer temperature]
  | temperatureTicked error integral derivative delta temperature =>
    [.integer error, .integer integral, .integer derivative, .integer delta, .integer temperature]
  | roleOverrideSet role temperature => [.role role, .integer temperature]
  | roleOverrideCleared role => [.role role]
  | notifierUpdated notifier => [.address notifier]
  | penaltySinkUpdated configured => [.flag configured]
  | auditProbabilityUpdated probability => [.half probability]
  | penaltyAmountUpdated amount => [.word amount.units]
  | auditorUpdated auditor allowed => [.address auditor, .flag allowed]
  | reschedulePolicyUpdated policy => [.text policy]
  | auditPaused => []
  | auditUnpaused => []
  | auditScheduled job agent seed replacedExisting =>
    [.word job.toNat, .address agent, .text seed, .flag replacedExisting]
  | auditRecorded job auditor passed details =>
    [.word job.toNat, .address auditor, .flag passed, .text details]
  | agentPenalized job agent amount => [.word job.toNat, .address agent, .word amount.units]
  | appealBondUpdated amount => [.word amount.units]
  | minJurySizeUpdated size => [.word size]
  | resolutionAuthorityUpdated authority => [.address authority]
  | validatorSelectorUpdated => []
  | employerLookupUpdated => []
  | disputeRaised job appellant bond jurySize =>
    [.word job.toNat, .address appellant, .word bond.units, .word jurySize]
  | disputeResolved job employerWins recipient bond =>
    [.word job.toNat, .flag employerWins, .address recipient, .word bond.units]

/-- The event of a kind whose fields have these values, when they are what the kind asks for. -/
def ofValues? : EventKind → List FieldValue → Option Event
  | .authorityTransferred, [.subsystem subsystem, .address previous, .address new] =>
    some (.authorityTransferred subsystem previous new)
  | .gainsUpdated, [.integer kp, .integer ki, .integer kd] => some (.gainsUpdated kp ki kd)
  | .boundsUpdated, [.integer min, .integer max] => some (.boundsUpdated min max)
  | .temperatureUpdated, [.integer previous, .integer temperature] =>
    some (.temperatureUpdated previous temperature)
  | .temperatureTicked,
      [.integer error, .integer integral, .integer derivative, .integer delta,
        .integer temperature] =>
    some (.temperatureTicked error integral derivative delta temperature)
  | .roleOverrideSet, [.role role, .integer temperature] =>
    some (.roleOverrideSet role temperature)
  | .roleOverrideCleared, [.role role] => some (.roleOverrideCleared role)
  | .notifierUpdated, [.address notifier] => some (.notifierUpdated notifier)
  | .penaltySinkUpdated, [.flag configured] => some (.penaltySinkUpdated configured)
  | .auditProbabilityUpdated, [.half probability] => some (.auditProbabilityUpdated probability)
  | .penaltyAmountUpdated, [.word amount] => some (.penaltyAmountUpdated (Amount.ofNat amount))
  | .auditorUpdated, [.address auditor, .flag allowed] => some (.auditorUpdated auditor allowed)
  | .reschedulePolicyUpdated, [.text policy] => some (.reschedulePolicyUpdated policy)
  | .auditPaused, [] => some .auditPaused
  | .auditUnpaused, [] => some .auditUnpaused
  | .auditScheduled, [.word job, .address agent, .text seed, .flag replacedExisting] =>
    some (.auditScheduled (JobId.ofNat job) agent seed replacedExisting)
  | .auditRecorded, [.word job, .address auditor, .flag passed, .text details] =>
    some (.auditRecorded (JobId.ofNat job) auditor passed details)
  | .agentPenalized, [.word job, .address agent, .word amount] =>
    some (.agentPenalized (JobId.ofNat job) agent (Amount.ofNat amount))
  | .appealBondUpdated, [.word amount] => some (.appealBondUpdated (Amount.ofNat amount))
  | .minJurySizeUpdated, [.word size] => some (.minJurySizeUpdated size)
  | .resolutionAuthorityUpdated, [.address authority] =>
    some (.resolutionAuthorityUpdated authority)
  | .validatorSelectorUpdated, [] => some .validatorSelectorUpdated
  | .employerLookupUpdated, [] => some .employerLookupUpdated
  | .disputeRaised, [.word job, .address appellant, .word bond, .word jurySize] =>
    some (.disputeRaised (JobId.ofNat job) appellant (Amount.ofNat bond) jurySize)
  | .disputeResolved, [.word job, .flag employerWins, .address recipient, .word bond] =>
    some (.disputeResolved (JobId.ofNat job) employerWins recipient (Amount.ofNat bond))
  | _, _ => none

/-- The values of an event are what its kind asks for. -/
theorem map_kind_values (event : Event) :
    event.values.map FieldValue.kind = event.kind.fields.map Prod.snd := by
  cases event <;> rfl

end Event

end Integrity
