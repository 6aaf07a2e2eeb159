import Integrity.Proofs.Audit.Replay
import Integrity.Proofs.Dispute.Replay
import Integrity.Proofs.Engine.Build
import Integrity.Proofs.Engine.Cells
import Integrity.Proofs.Engine.TemperatureLog

/-! # What the log tells of the audits and the disputes

Two histories of one engine may write the same events about audits and disputes and leave different
audits and disputes behind: what the log is not told need not be the same. All that it is told
is. -/

namespace Integrity.Engine

open Operation

/-! ## What the log tells -/

/-- The accounts of the audits and the terms of the disputes are what the log tells. -/
structure Retold (engine : Engine) (s : Audit.Scheduler) (r : Dispute.Resolver) : Prop where
  audit : engine.audit = some s
  disputes : engine.disputes = some r
  accounts : s.accounts = (engine.log.eventsOf .audit).foldl Audit.recount fun _ => none
  terms : r.terms = (engine.log.eventsOf .disputes).foldl Dispute.recount fun _ => none

theorem retold_build {config : Config} {collaborators : Collaborators}
    {withSink withMetrics : Bool} {engine : Engine}
    (h : build config collaborators withSink withMetrics = .ok engine) :
    ∃ s r, engine.Retold s r := by
  obtain ⟨-, c, s, -, hs, rfl⟩ := build_eq_ok.mp h
  refine ⟨s, _, rfl, rfl, ?_, rfl⟩
  funext job
  rw [Audit.Scheduler.accounts, Audit.Scheduler.audit, (Audit.Scheduler.blank_of_make hs).1]
  rfl

/-- What is noted of another subsystem says nothing of the audits or the disputes. -/
theorem Retold.note {engine : Engine} {s : Audit.Scheduler} {r : Dispute.Resolver}
    (h : engine.Retold s r) (now : Timestamp) {events : List Event} {subsystem : Subsystem}
    (readings : List Reading) (hevents : ∀ event ∈ events, event.subsystem = subsystem)
    (haudit : subsystem ≠ .audit) (hdisputes : subsystem ≠ .disputes) :
    (engine.note now events readings).Retold s r := by
  refine ⟨h.audit, h.disputes, ?_, ?_⟩
  · rw [Engine.note, observe,
      EventLog.eventsOf_append_other _ now (Event.subsystem_ne hevents haudit), h.accounts]
  · rw [Engine.note, observe,
      EventLog.eventsOf_append_other _ now (Event.subsystem_ne hevents hdisputes), h.terms]

/-- An action changes the audits and the disputes as it tells the log, unless it forges that. -/
theorem Retold.step {before after : Engine} {now : Timestamp} {action : Action}
    {result : Except Failure Answer} {s : Audit.Scheduler} {r : Dispute.Resolver}
    (h : before.Retold s r) (hstep : Step before now action result after)
    (haudit : ¬action.Forges .audit) (hdisputes : ¬action.Forges .disputes) :
    ∃ s' r', after.Retold s' r' := by
  cases hstep with
  | absent subsystem => exact ⟨s, r, h⟩
  | declined cause => exact ⟨s, r, h⟩
  | arranged haction collaborators => exact ⟨s, r, h.audit, h.disputes, h.accounts, h.terms⟩
  | told event times =>
      exact ⟨s, r, h.note now [] Event.subsystem_of_mem_replicate haudit hdisputes⟩
  | temperature hc hrun =>
      have hmodule := Temperature.step_of_run hrun
      have hthere : ∀ c, Retold { before with temperature := some c } s r :=
        fun c => ⟨h.audit, h.disputes, h.accounts, h.terms⟩
      exact ⟨s, r, (hthere _).note now _ hmodule.subsystem_of_start (by decide) (by decide)⟩
  | @audit caller command s₀ answer site hs hrun =>
      obtain rfl : s = s₀ := Option.some.inj (h.audit.symm.trans hs)
      have hmodule := Audit.step_of_run hrun
      have hsubsystem := hmodule.subsystem_of_start
      refine ⟨site.state, r, rfl, h.disputes, ?_, ?_⟩
      · rw [Engine.note, observe, EventLog.eventsOf_append_self _ now hsubsystem,
          List.foldl_append, ← h.accounts]
        exact hmodule.accounts
      · rw [Engine.note, observe,
          EventLog.eventsOf_append_other _ now (Event.subsystem_ne hsubsystem (by decide)),
          h.terms]
  | @dispute caller command r₀ answer site hr hrun =>
      obtain rfl : r = r₀ := Option.some.inj (h.disputes.symm.trans hr)
      have hmodule := Dispute.step_of_run hrun
      have hsubsystem := hmodule.subsystem_of_start
      refine ⟨s, site.state, h.audit, rfl, ?_, ?_⟩
      · rw [Engine.note, observe,
          EventLog.eventsOf_append_other _ now (Event.subsystem_ne hsubsystem (by decide)),
          h.accounts]
      · rw [Engine.note, observe, EventLog.eventsOf_append_self _ now hsubsystem,
          List.foldl_append, ← h.terms]
        exact hmodule.terms

theorem Retold.after {engine : Engine} {s : Audit.Scheduler} {r : Dispute.Resolver}
    (h : engine.Retold s r) (clock : Nat → Timestamp) {actions : List Action}
    (hactions : ∀ action ∈ actions, ¬action.Forges .audit ∧ ¬action.Forges .disputes) :
    ∃ s' r', (engine.after clock actions).Retold s' r' := by
  induction actions generalizing engine s r clock with
  | nil => exact ⟨s, r, h⟩
  | cons action rest ih =>
      obtain ⟨⟨haudit, hdisputes⟩, hrest⟩ := List.forall_mem_cons.mp hactions
      obtain ⟨s', r', hnext⟩ := h.step (act_step engine (clock 0) action) haudit hdisputes
      exact ih hnext (fun n => clock (n + 1)) hrest

/-! ## What it leaves out -/

/-- What an action commits the audit of a job to. -/
def Entry.commitment? (job : JobId) (entry : Entry) : Option Audit.Commitment :=
  entry.audited?.bind fun call =>
    Audit.commitment? entry.before.collaborators.chain job call.1 call.2

/-- The jury that an action seats for a job, or nothing in its place when it dismisses it. -/
def Entry.seats? (job : JobId) (entry : Entry) : Option (Option (List Address)) :=
  entry.disputed?.bind fun call => Dispute.seats? job call.1 call.2

/-- What the audit of a job was committed to last. -/
def lastCommitment (job : JobId) (entries : List Entry) : Option Audit.Commitment :=
  latest (Entry.commitment? job) entries

/-- The jury that was seated last for a job, unless it was dismissed. -/
def lastJury (job : JobId) (entries : List Entry) : Option (List Address) :=
  (latest (Entry.seats? job) entries).getD none

section Build

variable {config : Config} {collaborators : Collaborators} {withSink withMetrics : Bool}
  {engine : Engine} (h : build config collaborators withSink withMetrics = .ok engine)
  (clock : Nat → Timestamp) (actions : List Action) (job : JobId)
include h

theorem commitment_after {s : Audit.Scheduler}
    (hs : (engine.after clock actions).audit = some s) :
    s.commitment job = lastCommitment job (engine.history clock actions) := by
  have hread := bind_audit_after engine clock actions (fun s => s.commitment job)
    (fun c => Audit.commitment? c.chain job) fun hstep => hstep.commitment job
  obtain ⟨-, c, start, -, hstart, rfl⟩ := build_eq_ok.mp h
  have hblank : start.commitment job = none := by
    rw [Audit.Scheduler.commitment, Audit.Scheduler.audit,
      (Audit.Scheduler.blank_of_make hstart).1]
    rfl
  rw [hs, Option.bind_some, Option.bind_some, hblank, Option.or_none] at hread
  exact hread

theorem jury_after {r : Dispute.Resolver}
    (hr : (engine.after clock actions).disputes = some r) :
    r.jury job = lastJury job (engine.history clock actions) := by
  have hread := bind_disputes_after engine clock actions (fun r => some (r.jury job))
    (Dispute.seats? job) fun hstep => by
      rw [hstep.jury job, Option.or_some]
      rfl
  obtain ⟨-, c, start, -, -, rfl⟩ := build_eq_ok.mp h
  rw [hr, Option.bind_some, Option.bind_some, Option.or_some] at hread
  exact Option.some.inj hread

end Build

/-- Take two histories of an engine that was built, and let nobody write events about audits or
disputes past the subsystems. When both write the same events about audits and about disputes, at
whatever times, the audit of each job has the same agent, seed and outcome after both, and its open
dispute has the same appellant and bond, and as large a jury. The audit is the same altogether
exactly when it was committed to the same last; the dispute, when the same jury was seated. -/
theorem retold_after {config : Config} {collaborators : Collaborators}
    {withSink withMetrics : Bool} {engine : Engine}
    (h : build config collaborators withSink withMetrics = .ok engine)
    (clock clock' : Nat → Timestamp) {actions actions' : List Action}
    (hactions : ∀ action ∈ actions, ¬action.Forges .audit ∧ ¬action.Forges .disputes)
    (hactions' : ∀ action ∈ actions', ¬action.Forges .audit ∧ ¬action.Forges .disputes)
    (haudit : (engine.after clock actions).log.eventsOf .audit =
      (engine.after clock' actions').log.eventsOf .audit)
    (hdisputes : (engine.after clock actions).log.eventsOf .disputes =
      (engine.after clock' actions').log.eventsOf .disputes) :
    ∃ s s' r r',
      (engine.after clock actions).audit = some s ∧
      (engine.after clock' actions').audit = some s' ∧
      (engine.after clock actions).disputes = some r ∧
      (engine.after clock' actions').disputes = some r' ∧
      ∀ job,
        (s.audit job).map Audit.Record.told = (s'.audit job).map Audit.Record.told ∧
        (s.audit job = s'.audit job ↔
          lastCommitment job (engine.history clock actions) =
            lastCommitment job (engine.history clock' actions')) ∧
        (r.dispute job).map Dispute.Record.terms = (r'.dispute job).map Dispute.Record.terms ∧
        (r.dispute job = r'.dispute job ↔
          lastJury job (engine.history clock actions) =
            lastJury job (engine.history clock' actions')) := by
  obtain ⟨start, starting, hstart⟩ := retold_build h
  obtain ⟨s, r, hretold⟩ := hstart.after clock hactions
  obtain ⟨s', r', hretold'⟩ := hstart.after clock' hactions'
  have haccounts : s.accounts = s'.accounts := by
    rw [hretold.accounts, hretold'.accounts, haudit]
  have hterms : r.terms = r'.terms := by
    rw [hretold.terms, hretold'.terms, hdisputes]
  refine ⟨s, s', r, r', hretold.audit, hretold'.audit, hretold.disputes, hretold'.disputes, ?_⟩
  intro job
  refine ⟨Audit.Scheduler.map_told_eq (congrFun haccounts job), ?_, congrFun hterms job, ?_⟩
  · rw [Audit.Scheduler.audit_eq_iff, commitment_after h clock actions job hretold.audit,
      commitment_after h clock' actions' job hretold'.audit]
    exact and_iff_right (congrFun haccounts job)
  · rw [Dispute.Resolver.dispute_eq_iff, jury_after h clock actions job hretold.disputes,
      jury_after h clock' actions' job hretold'.disputes]
    exact and_iff_right (congrFun hterms job)

/-- Two histories that write the same events. A job is reported with other results at first and
with the same result at last, so that its audit ends the same; its dispute has another jury. -/
theorem retold_after_rescheduled :
    let holder := Address.filled 0xA1
    let agent := Address.filled 0xAB
    let job := JobId.ofNat 7
    let config := Config.entrusted holder [] Amount.zero Amount.zero
    let engine := entrusted holder [] Amount.zero Amount.zero false false
    let history (result : Digest) (jury : Address) : List Action := [
      .audit holder (.finalize job agent true result),
      .audit holder (.finalize job agent true Word.zero),
      .dispute holder (.setJurySource (.fixed [jury])),
      .dispute agent (.raise job Amount.zero)]
    let later := engine.after (fun _ => default) (history (Word.filled 1) holder)
    let later' := engine.after (fun _ => default) (history (Word.filled 2) agent)
    build config .fresh false false = .ok engine ∧
      later.log.eventsOf .audit = later'.log.eventsOf .audit ∧
      later.log.eventsOf .disputes = later'.log.eventsOf .disputes ∧
      (later.audit.bind fun s => s.audit job) = (later'.audit.bind fun s => s.audit job) ∧
      (later.disputes.bind fun r => r.dispute job) ≠
        later'.disputes.bind fun r => r.dispute job := by
  intro holder agent job config engine history later later'
  have hbuild : build config .fresh false false = .ok engine := build_entrusted rfl _ _ _ _ _
  have hforges : ∀ result jury, ∀ action ∈ history result jury,
      ¬action.Forges .audit ∧ ¬action.Forges .disputes := by
    simp [history, Action.Forges]
  have haudit : later.log.eventsOf .audit = later'.log.eventsOf .audit := by decide +kernel
  have hdisputes : later.log.eventsOf .disputes = later'.log.eventsOf .disputes := by
    decide +kernel
  obtain ⟨s, s', r, r', hs, hs', hr, hr', hjobs⟩ := retold_after hbuild (fun _ => default)
    (fun _ => default) (hforges (Word.filled 1) holder) (hforges (Word.filled 2) agent) haudit
    hdisputes
  obtain ⟨-, hcommitted, -, hseated⟩ := hjobs job
  refine ⟨hbuild, haudit, hdisputes, ?_, ?_⟩
  · simp only [later, later', hs, hs', Option.bind_some]
    exact hcommitted.mpr (by decide +kernel)
  · simp only [later, later', hr, hr', Option.bind_some]
    exact fun hsame => absurd (hseated.mp hsame) (by decide +kernel)

/-- With the same seed for every job, two histories write the same log, and yet the audit of the job
has another result and was scheduled at another time, and its dispute has another jury. -/
theorem log_leaves_out :
    let holder := Address.filled 0xA1
    let agent := Address.filled 0xAB
    let job := JobId.ofNat 7
    let config := Config.entrusted holder [] Amount.zero Amount.zero
    let engine := entrusted holder [] Amount.zero Amount.zero false false
    let history (result : Digest) (moment : Int64) (jury : Address) : List Action := [
      .moveChain ⟨Word.zero, moment⟩,
      .audit holder (.finalize job agent true result),
      .dispute holder (.setJurySource (.fixed [jury])),
      .dispute agent (.raise job Amount.zero)]
    let later := engine.after (fun _ => default) (history (Word.filled 1) 10 holder)
    let later' := engine.after (fun _ => default) (history (Word.filled 2) 20 agent)
    build config .fresh false false = .ok engine ∧
      later.log.events = later'.log.events ∧
      (later.audit.bind fun s => s.audit job) =
        some ⟨agent, Word.filled 1, Word.zero, 10, false, false⟩ ∧
      (later'.audit.bind fun s => s.audit job) =
        some ⟨agent, Word.filled 2, Word.zero, 20, false, false⟩ ∧
      (later.disputes.bind fun r => r.dispute job) = some ⟨agent, Amount.zero, [holder]⟩ ∧
      (later'.disputes.bind fun r => r.dispute job) = some ⟨agent, Amount.zero, [agent]⟩ := by
  intro holder agent job config engine history later later'
  have hbuild : build config .fresh false false = .ok engine := build_entrusted rfl _ _ _ _ _
  exact ⟨hbuild, by decide +kernel, by decide +kernel, by decide +kernel, by decide +kernel,
    by decide +kernel⟩

end Integrity.Engine
