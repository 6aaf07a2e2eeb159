import Integrity.Proofs.Audit.Trail
import Integrity.Proofs.Text.Hex

/-! # What the log tells of an audit, and what it leaves out

When a job is selected, the log is told whose job it is and what seed selected it; when there is an
outcome, it is told that. So the audits can be worked out from the log, but for two things: the
result that the agent committed to, and when the job was selected. -/

namespace Integrity.Audit

open Operation

/-! ## What is told -/

/-- What the log tells of an audit. -/
structure Account where
  agent : Address
  seed : String
  completed : Bool
  passed : Bool

/-- What the log is told of an audit. -/
def Record.account (record : Record) : Account :=
  ⟨record.agent, record.seedText, record.completed, record.passed⟩

/-- The accounts of all audits after one more event. -/
def recount (accounts : JobId → Option Account) : Event → JobId → Option Account
  | .auditScheduled job agent seed _ => fun other =>
    if job = other then some ⟨agent, seed, false, false⟩ else accounts other
  | .auditRecorded job _ passed _ => fun other =>
    if job = other then
      (accounts job).map fun account => { account with completed := true, passed }
    else accounts other
  | _ => accounts

/-- The accounts of the audits of a scheduler. -/
def Scheduler.accounts (s : Scheduler) (job : JobId) : Option Account :=
  (s.audit job).map Record.account

theorem recount_of_isAside {event : Event} (h : event.isAside = true)
    (accounts : JobId → Option Account) : recount accounts event = accounts := by
  cases event <;> first | rfl | cases h

variable {β : Type}

theorem accounts_recorded {s : Scheduler} {caller : Address} {job : JobId} {found : Record}
    (hopen : s.openAudit caller job = .ok found) (passed : Bool) (details : String)
    (penalized : Bool) :
    (s.recorded job found passed penalized).accounts =
      recount s.accounts (.auditRecorded job caller passed details) := by
  obtain ⟨-, -, haudit, -⟩ := Scheduler.openAudit_eq_ok.mp hopen
  funext other
  simp only [Scheduler.accounts, Scheduler.audit_recorded, recount]
  split
  · simp [haudit, Record.account, Record.seedText]
  · rfl

/-- The events of a step turn the accounts before it into those after it. -/
theorem Step.accounts {env : Environment β} {caller : Address} {command : Command}
    {answer : Except Error Answer} {s : Scheduler} {book : β} {site : Site Scheduler β}
    (h : Step env caller (.start s book) command answer site) :
    site.state.accounts = site.events.foldl recount s.accounts := by
  cases h with
  | refused _ cause => rfl
  | ignored _ _ _ => rfl
  | passed _ _ _ _ _ => rfl
  | @amended command change event hcommand _ _ =>
      have hrecords := (keeps_of_amendment hcommand s).1
      have haside := recount_of_isAside (isAside_of_amendment hcommand s) s.accounts
      refine Eq.trans ?_ haside.symm
      funext job
      rw [Scheduler.accounts, Scheduler.accounts, Scheduler.audit, Scheduler.audit]
      exact congrArg (fun records => (Table.get? records job).map Record.account) hrecords
  | scheduled _ _ _ _ _ hrecord =>
      subst hrecord
      funext other
      simp only [Scheduler.afterScheduling, Scheduler.accounts, Scheduler.audit_scheduled]
      split <;> simp_all [Site.start, recount, Record.account, Record.seedText, Scheduler.accounts]
  | @recorded job passed details found book' hopen _ =>
      refine (accounts_recorded hopen passed details _).trans ?_
      simp only [Scheduler.afterRecording, Site.start]
      cases s.penaltyFor found passed <;> rfl

/-- What the log is told of an audit, the seed as it is. -/
def Record.told (record : Record) : Address × Digest × Bool × Bool :=
  (record.agent, record.seed, record.completed, record.passed)

theorem Record.account_eq_iff {record other : Record} :
    record.account = other.account ↔ record.told = other.told := by
  obtain ⟨agent, result, ⟨seed, hseed⟩, scheduledAt, completed, passed⟩ := record
  obtain ⟨agent', result', ⟨seed', hseed'⟩, scheduledAt', completed', passed'⟩ := other
  simp only [account, Account.mk.injEq, seedText, String.ofList_inj, Hex.encode_injective.eq_iff,
    told, Prod.mk.injEq, Word.mk.injEq]

theorem Scheduler.map_told_eq {s other : Scheduler} {job : JobId}
    (h : s.accounts job = other.accounts job) :
    (s.audit job).map Record.told = (other.audit job).map Record.told := by
  simp only [accounts] at h
  cases haudit : s.audit job with
  | none =>
      rw [haudit, Option.map_none, eq_comm, Option.map_eq_none_iff] at h
      rw [h]
  | some record =>
      rw [haudit, Option.map_some, eq_comm, Option.map_eq_some_iff] at h
      obtain ⟨found, hfound, haccount⟩ := h
      rw [hfound, Option.map_some, Option.map_some, Record.account_eq_iff.mp haccount]

/-! ## What is left out -/

/-- What the log is not told of an audit. -/
structure Commitment where
  result : Digest
  scheduledAt : Int64
deriving DecidableEq

def Record.commitment (record : Record) : Commitment :=
  ⟨record.result, record.scheduledAt⟩

/-- An audit is what the log is told of it and what it is not. -/
theorem Record.eq_iff {record other : Record} :
    record = other ↔ record.account = other.account ∧ record.commitment = other.commitment := by
  constructor
  · rintro rfl
    exact ⟨rfl, rfl⟩
  · rw [account_eq_iff]
    rintro ⟨htold, hcommitment⟩
    obtain ⟨agent, result, seed, scheduledAt, completed, passed⟩ := record
    obtain ⟨agent', result', seed', scheduledAt', completed', passed'⟩ := other
    simp only [told, Prod.mk.injEq] at htold
    simp only [commitment, Commitment.mk.injEq] at hcommitment
    simp [htold, hcommitment]

/-- What a report commits to, when its job is selected. -/
def commitment? (chain : ChainSnapshot) (job : JobId) :
    Command → Except Error Answer → Option Commitment
  | .finalize reported _ _ result, .ok (some _) =>
    if reported = job then some ⟨result, chain.timestamp⟩ else none
  | _, _ => none

/-- The commitment of the audit of a job. -/
def Scheduler.commitment (s : Scheduler) (job : JobId) : Option Commitment :=
  (s.audit job).map Record.commitment

theorem Scheduler.audit_eq_iff {s other : Scheduler} {job : JobId} :
    s.audit job = other.audit job ↔
      s.accounts job = other.accounts job ∧ s.commitment job = other.commitment job := by
  simp only [accounts, commitment]
  cases s.audit job with
  | none => cases other.audit job <;> simp
  | some record =>
      cases other.audit job with
      | none => simp
      | some found => simpa using Record.eq_iff

/-- A step leaves the commitments as it makes them, or else as they were. -/
theorem Step.commitment {env : Environment β} {caller : Address} {command : Command}
    {answer : Except Error Answer} {before after : Site Scheduler β}
    (h : Step env caller before command answer after) (job : JobId) :
    after.state.commitment job =
      (commitment? env.chain job command answer).or (before.state.commitment job) := by
  cases h with
  | refused command cause => cases command <;> rfl
  | ignored _ _ _ => rfl
  | passed _ _ _ _ _ => rfl
  | amended hcommand _ _ =>
      have hrecords := (keeps_of_amendment hcommand before.state).1
      have hnone : commitment? env.chain job command (.ok none) = none := by
        cases command <;> rfl
      rw [hnone, Option.none_or, Scheduler.commitment, Scheduler.audit, hrecords]
      rfl
  | scheduled _ _ _ _ _ hrecord =>
      subst hrecord
      simp only [Scheduler.commitment, Scheduler.afterScheduling, Scheduler.audit_scheduled,
        commitment?]
      split <;> rfl
  | recorded hopen _ =>
      obtain ⟨-, -, haudit, -⟩ := Scheduler.openAudit_eq_ok.mp hopen
      simp only [Scheduler.commitment, Scheduler.afterRecording, Scheduler.audit_recorded,
        commitment?, Option.none_or]
      split
      · next hjob =>
          rw [← hjob, haudit]
          rfl
      · rfl

end Integrity.Audit
