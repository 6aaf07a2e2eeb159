import Integrity.Audit.Selection
import Integrity.Authority
import Integrity.Collaborator.Error
import Integrity.Operation
import Integrity.Table
import Integrity.Trail

/-!
# The audit scheduler

Finished jobs are reported by one trusted notifier; a share of them is selected for an audit, whose
outcome an auditor records once. A failed audit may cost the agent reputation, taken by a penalty
sink before anything is recorded: when the sink refuses, nothing is.
-/

namespace Integrity.Audit

/-- Why an operation of the scheduler failed. -/
inductive Error where
  | unauthorized (caller : Address)
  | invalidProbability (probability : UInt16)
  | paused
  | notScheduled (job : JobId)
  | alreadyCompleted (job : JobId)
  | alreadyScheduled (job : JobId)
  | collaborator (cause : CollaboratorError)
deriving DecidableEq

/-- What is said about an operation of the scheduler that failed. -/
def Error.message : Error → String
  | .unauthorized caller => s!"Unauthorized caller: {caller}"
  | .invalidProbability probability => s!"Invalid probability: {probability} bps exceeds 10000"
  | .paused => "Audit scheduler is paused"
  | .notScheduled job => s!"Audit not scheduled for {job}"
  | .alreadyCompleted job => s!"Audit already completed for {job}"
  | .alreadyScheduled job => s!"Audit already scheduled for {job}"
  | .collaborator cause => s!"Collaborator error: {cause.message}"

/-- What is said about an operation of the scheduler that failed, and about what caused it. -/
def Error.trail (e : Error) : Trail :=
  match e with
  | .collaborator cause => (Trail.ofFailure cause.message).causing e.message
  | _ => Trail.ofFailure e.message

/-- What happens when a job that has an audit is selected again. -/
inductive ReschedulePolicy where
  | lastWriteWins
  | rejectExisting
deriving DecidableEq, Repr, Inhabited

namespace ReschedulePolicy

/-- All policies. -/
def all : List ReschedulePolicy :=
  [lastWriteWins, rejectExisting]

/-- The name of a policy. -/
def name : ReschedulePolicy → String
  | lastWriteWins => "last_write_wins"
  | rejectExisting => "reject_existing"

/-- The policy with exactly this name. -/
def ofName? (name : String) : Option ReschedulePolicy :=
  all.find? fun policy => policy.name == name

end ReschedulePolicy

/-- The audit of a job. -/
structure Record where
  agent : Address
  result : Digest
  seed : Digest
  scheduledAt : Int64
  completed : Bool
  passed : Bool
deriving DecidableEq

/-- Counts of what the scheduler has done. -/
structure Stats where
  evaluated : Nat
  scheduled : Nat
  replaced : Nat
  completed : Nat
  passed : Nat
  failed : Nat
  penaltiesApplied : Nat
  pending : Nat
deriving DecidableEq, Repr

/-- The counts before anything was done. -/
def Stats.zero : Stats :=
  ⟨0, 0, 0, 0, 0, 0, 0, 0⟩

/-- A set of addresses, in ascending order. -/
abbrev Roster : Type :=
  List Address

namespace Roster

/-- Puts an address in its place, unless it is there. -/
def insert (roster : Roster) (address : Address) : Roster :=
  match roster with
  | [] => [address]
  | first :: rest =>
    if address = first then first :: rest
    else if address.toNat < first.toNat then address :: first :: rest
    else first :: insert rest address

/-- Takes an address away. -/
def remove (roster : Roster) (address : Address) : Roster :=
  roster.filter fun a => a ≠ address

/-- The addresses of a list. -/
def ofList (addresses : List Address) : Roster :=
  addresses.foldl insert []

end Roster

/-- What a scheduler starts from. -/
structure Settings where
  notifier : Address
  /-- The probability of an audit, in basis points. -/
  probability : UInt16
  /-- What a failed audit costs; nothing when zero. -/
  penalty : Amount
  auditors : List Address
  policy : ReschedulePolicy
deriving DecidableEq

/-- The usual start: nobody reports, five audits in a hundred, no penalty, no auditors. -/
def Settings.default : Settings :=
  ⟨Address.null, 500, Amount.zero, [], .lastWriteWins⟩

/-- The state of the scheduler. -/
structure Scheduler where
  authority : Authority
  notifier : Address
  auditors : Roster
  probability : UInt16
  penalty : Amount
  sinkConnected : Bool
  policy : ReschedulePolicy
  paused : Bool
  records : Table JobId Record
  stats : Stats
deriving DecidableEq

namespace Scheduler

open Operation

/-- Lets only a probability up to certainty pass. -/
def ensureProbability (probability : UInt16) : Except Error Unit :=
  if certainty < probability.toNat then .error (.invalidProbability probability) else .ok ()

/-- A scheduler at its start. -/
def make (authority : Address) (settings : Settings) (sinkConnected : Bool) :
    Except Error Scheduler := do
  ensureProbability settings.probability
  return {
    authority := ⟨authority⟩
    notifier := settings.notifier
    auditors := Roster.ofList settings.auditors
    probability := settings.probability
    penalty := settings.penalty
    sinkConnected
    policy := settings.policy
    paused := false
    records := Table.empty
    stats := Stats.zero }

/-- Lets only the holder of the authority pass. -/
def ensureAuthority (s : Scheduler) (caller : Address) : Except Error Unit :=
  if s.authority.isHeldBy caller then .ok () else .error (.unauthorized caller)

/-- Passes unless audits stand still. -/
def ensureRunning (s : Scheduler) : Except Error Unit :=
  if s.paused then .error .paused else .ok ()

/-- Lets only the notifier pass, and nobody while there is none. -/
def ensureNotifier (s : Scheduler) (caller : Address) : Except Error Unit :=
  if s.notifier.isNull || s.notifier != caller then .error (.unauthorized caller) else .ok ()

/-- Whether an address may record outcomes. -/
def isAuditor (s : Scheduler) (address : Address) : Bool :=
  s.auditors.contains address

/-- The audit of a job. -/
def audit (s : Scheduler) (job : JobId) : Option Record :=
  s.records.get? job

/-- The counts after an audit was scheduled over `previous`. -/
def Stats.schedule (stats : Stats) (previous : Option Record) : Stats :=
  let overwritten : Stats :=
    match previous with
    | none => stats
    | some record =>
      { stats with
        replaced := stats.replaced + 1
        pending := if record.completed then stats.pending else stats.pending - 1 }
  { overwritten with
    scheduled := overwritten.scheduled + 1
    pending := overwritten.pending + 1 }

/-- A report that a job is finished. The answer is the audit of the job, if there is to be one. -/
def finalize {β : Type} (seeds : SeedSource) (chain : ChainSnapshot) (caller : Address)
    (job : JobId) (agent : Address) (success : Bool) (result : Digest) :
    Operation Scheduler β Error (Option Record) := do
  let before ← state
  check before.ensureRunning
  check (before.ensureNotifier caller)
  if !success || agent.isNull || before.probability == 0 then
    return none
  let previous := before.audit job
  failIf (previous.isSome && before.policy == .rejectExisting) (.alreadyScheduled job)
  let seed := seeds ⟨job, agent, result⟩ chain
  update fun s => { s with stats := { s.stats with evaluated := s.stats.evaluated + 1 } }
  if !isSelected seed before.probability then
    return none
  let record : Record := ⟨agent, result, seed, chain.timestamp, false, false⟩
  update fun s => { s with records := s.records.insert job record }
  update fun s => { s with stats := Stats.schedule s.stats previous }
  emit [.auditScheduled job agent (String.ofList (Hex.encode seed.bytes)) previous.isSome]
  observe [.auditScheduled]
  return some record

/-- What recording an outcome of a job's audit takes from its agent. -/
def penaltyFor (s : Scheduler) (record : Record) (passed : Bool) : Option (Address × Amount) :=
  if s.sinkConnected && !passed && !s.penalty.isZero then some (record.agent, s.penalty) else none

/-- The audit of a job, for a caller that may record its outcome. -/
def openAudit (s : Scheduler) (caller : Address) (job : JobId) : Except Error Record := do
  s.ensureRunning
  if s.isAuditor caller then
    match s.audit job with
    | none => throw (.notScheduled job)
    | some record => if record.completed then throw (.alreadyCompleted job) else return record
  else throw (.unauthorized caller)

/-- The counts after an outcome was recorded. -/
def Stats.complete (stats : Stats) (passed penalized : Bool) : Stats :=
  { stats with
    completed := stats.completed + 1
    pending := stats.pending - 1
    passed := if passed then stats.passed + 1 else stats.passed
    failed := if passed then stats.failed else stats.failed + 1
    penaltiesApplied :=
      if penalized then stats.penaltiesApplied + 1 else stats.penaltiesApplied }

/-- Takes a penalty, if there is one to take. -/
def penalize {β : Type} (sink : β → Address → Amount → Except CollaboratorError β) :
    Option (Address × Amount) → Operation Scheduler β Error Unit
  | none => pure ()
  | some (agent, amount) => call fun book => (sink book agent amount).mapError .collaborator

/-- Tells of a penalty, if there was one. -/
def tellPenalty {β : Type} (job : JobId) :
    Option (Address × Amount) → Operation Scheduler β Error Unit
  | none => pure ()
  | some (agent, amount) => do
    emit [.agentPenalized job agent amount]
    observe [.penaltyApplied]

/-- Records the outcome of an audit. A penalty goes to the penalty sink, which is asked only when
there is something to take. -/
def record {β : Type} (sink : β → Address → Amount → Except CollaboratorError β)
    (caller : Address) (job : JobId) (passed : Bool) (details : String) :
    Operation Scheduler β Error Record := do
  let before ← state
  let found ← check (before.openAudit caller job)
  let penalty := before.penaltyFor found passed
  penalize sink penalty
  let updated := { found with completed := true, passed }
  update fun s => { s with records := s.records.insert job updated }
  update fun s => { s with stats := Stats.complete s.stats passed penalty.isSome }
  emit [.auditRecorded job caller passed details]
  observe [.auditRecorded]
  tellPenalty job penalty
  return updated

/-- An administrative change by the holder of the authority, which one event tells of. -/
def administer {β : Type} (caller : Address) (change : Scheduler → Scheduler)
    (event : Scheduler → Event) : Operation Scheduler β Error Unit :=
  amend (fun s => s.ensureAuthority caller) change event

/-- Gives the authority to another address. -/
def transferAuthority {β : Type} (caller new : Address) : Operation Scheduler β Error Unit :=
  administer caller (fun s => { s with authority := ⟨new⟩ })
    fun s => .authorityTransferred .audit s.authority.holder new

/-- Lets another address report finished jobs. -/
def setNotifier {β : Type} (caller notifier : Address) : Operation Scheduler β Error Unit :=
  administer caller (fun s => { s with notifier }) fun _ => .notifierUpdated notifier

/-- Connects the penalty sink or disconnects it. -/
def setSink {β : Type} (caller : Address) (connected : Bool) :
    Operation Scheduler β Error Unit :=
  administer caller (fun s => { s with sinkConnected := connected })
    fun _ => .penaltySinkUpdated connected

/-- Sets the probability of an audit. -/
def setProbability {β : Type} (caller : Address) (probability : UInt16) :
    Operation Scheduler β Error Unit :=
  amend
    (fun s => do
      s.ensureAuthority caller
      ensureProbability probability)
    (fun s => { s with probability }) fun _ => .auditProbabilityUpdated probability

/-- Sets what a failed audit costs. -/
def setPenalty {β : Type} (caller : Address) (penalty : Amount) :
    Operation Scheduler β Error Unit :=
  administer caller (fun s => { s with penalty }) fun _ => .penaltyAmountUpdated penalty

/-- Admits an auditor or dismisses one. -/
def setAuditor {β : Type} (caller auditor : Address) (allowed : Bool) :
    Operation Scheduler β Error Unit :=
  let change (roster : Roster) : Roster :=
    if allowed then roster.insert auditor else roster.remove auditor
  administer caller (fun s => { s with auditors := change s.auditors })
    fun _ => .auditorUpdated auditor allowed

/-- Sets what happens when a job is selected again. -/
def setPolicy {β : Type} (caller : Address) (policy : ReschedulePolicy) :
    Operation Scheduler β Error Unit :=
  administer caller (fun s => { s with policy }) fun _ => .reschedulePolicyUpdated policy.name

/-- Makes audits stand still. -/
def pause {β : Type} (caller : Address) : Operation Scheduler β Error Unit :=
  administer caller (fun s => { s with paused := true }) fun _ => .auditPaused

/-- Lets audits go on. -/
def unpause {β : Type} (caller : Address) : Operation Scheduler β Error Unit :=
  administer caller (fun s => { s with paused := false }) fun _ => .auditUnpaused

end Scheduler

/-- The operations that change a scheduler. -/
inductive Command where
  | finalize (job : JobId) (agent : Address) (success : Bool) (result : Digest)
  | record (job : JobId) (passed : Bool) (details : String)
  | transferAuthority (new : Address)
  | setNotifier (notifier : Address)
  | setSink (connected : Bool)
  | setProbability (probability : UInt16)
  | setPenalty (penalty : Amount)
  | setAuditor (auditor : Address) (allowed : Bool)
  | setPolicy (policy : ReschedulePolicy)
  | pause
  | unpause
deriving DecidableEq

/-- The answer to an operation: the audit that was scheduled or recorded, nothing otherwise. -/
abbrev Answer : Type :=
  Option Record

/-- What a scheduler works with. -/
structure Environment (β : Type) where
  seeds : SeedSource
  chain : ChainSnapshot
  sink : β → Address → Amount → Except CollaboratorError β

/-- An administrative operation, whose answer is empty. -/
def settle {β : Type} (op : Operation Scheduler β Error Unit) :
    Operation Scheduler β Error Answer :=
  op >>= fun _ => pure none

/-- Carries out an operation for a caller. -/
def Scheduler.perform {β : Type} (env : Environment β) (caller : Address) :
    Command → Operation Scheduler β Error Answer
  | .finalize job agent success result =>
    finalize env.seeds env.chain caller job agent success result
  | .record job passed details =>
    record env.sink caller job passed details >>= fun updated => pure (some updated)
  | .transferAuthority new => settle (transferAuthority caller new)
  | .setNotifier notifier => settle (setNotifier caller notifier)
  | .setSink connected => settle (setSink caller connected)
  | .setProbability probability => settle (setProbability caller probability)
  | .setPenalty penalty => settle (setPenalty caller penalty)
  | .setAuditor auditor allowed => settle (setAuditor caller auditor allowed)
  | .setPolicy policy => settle (setPolicy caller policy)
  | .pause => settle (pause caller)
  | .unpause => settle (unpause caller)

end Integrity.Audit
