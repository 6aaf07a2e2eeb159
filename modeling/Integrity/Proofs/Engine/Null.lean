import Integrity.Proofs.Audit.Auditors
import Integrity.Proofs.Dispute.Control
import Integrity.Proofs.Engine.Build
import Integrity.Proofs.Engine.Cells
import Integrity.Proofs.Temperature.Control

/-! # What the null address may do

The null address is nobody. It holds no authority, reports no job and settles no dispute, whatever
address the subsystems were given: each of these checks refuses it by itself. Only the list of
auditors has no such check, and the null address comes onto it and goes off it like any other. -/

namespace Integrity

open Operation

theorem Authority.not_isHeldBy_null (authority : Authority) :
    authority.isHeldBy Address.null = false :=
  isHeldBy_eq_false.mpr (.inr rfl)

/-! ## The audit scheduler -/

namespace Audit

variable {β : Type}

theorem Scheduler.ensureNotifier_null (s : Scheduler) :
    s.ensureNotifier Address.null = .error (.unauthorized Address.null) := by
  rw [ensureNotifier, if_pos]
  simpa [Address.isNull] using Decidable.em (s.notifier = Address.null)

theorem run_finalize_null (env : Environment β) (job : JobId) (agent : Address) (success : Bool)
    (result : Digest) (site : Site Scheduler β) :
    ∃ cause, (Scheduler.perform env Address.null (.finalize job agent success result)).run site =
      (.error cause, site) := by
  rw [Scheduler.perform, Scheduler.run_finalize, Scheduler.ensureNotifier_null]
  cases site.state.ensureRunning with
  | error cause => exact ⟨cause, rfl⟩
  | ok passed => exact ⟨_, rfl⟩

/-- Nobody records an outcome without being on the list. -/
theorem run_record_of_not_isAuditor {site : Site Scheduler β} {caller : Address}
    (h : site.state.isAuditor caller = false) (env : Environment β) (job : JobId) (passed : Bool)
    (details : String) :
    ∃ cause, (Scheduler.perform env caller (.record job passed details)).run site =
      (.error cause, site) := by
  have hopen : ∃ cause, site.state.openAudit caller job = .error cause := by
    rw [Scheduler.openAudit_eq, h]
    cases site.state.paused <;> exact ⟨_, rfl⟩
  obtain ⟨cause, hcause⟩ := hopen
  rw [Scheduler.perform, run_bind, Scheduler.run_record, hcause]
  exact ⟨cause, rfl⟩

theorem run_null (env : Environment β) (command : Command) (site : Site Scheduler β)
    (h : ∀ job passed details, command = .record job passed details →
      site.state.isAuditor Address.null = false) :
    ∃ cause, (Scheduler.perform env Address.null command).run site = (.error cause, site) := by
  cases hcommand : command.isAdministrative with
  | true =>
      refine ⟨_, (charter_governs env (Address.null, command)).refused ?_ rfl
        (Authority.not_isHeldBy_null _)⟩
      simp [charter, hcommand]
  | false =>
      cases command with
      | finalize job agent success result =>
          exact run_finalize_null env job agent success result site
      | record job passed details =>
          exact run_record_of_not_isAuditor (h job passed details rfl) env job passed details
      | _ => cases hcommand

/-- An outcome is answered the same to all that are on the list. -/
theorem run_record_of_isAuditor (site : Site Scheduler β) {caller other : Address}
    (hcaller : site.state.isAuditor caller = true) (hother : site.state.isAuditor other = true)
    (env : Environment β) (job : JobId) (passed : Bool) (details : String) :
    ((Scheduler.perform env caller (.record job passed details)).run site).1 =
      ((Scheduler.perform env other (.record job passed details)).run site).1 := by
  have hopen : site.state.openAudit caller job = site.state.openAudit other job := by
    rw [Scheduler.openAudit_eq, Scheduler.openAudit_eq, hcaller, hother, if_pos rfl, if_pos rfl]
  simp only [Scheduler.perform, run_bind, Scheduler.run_record, hopen]
  cases site.state.openAudit other job with
  | error cause => rfl
  | ok found =>
      cases hcharge : Scheduler.charge env.sink site.outside
        (site.state.penaltyFor found passed) <;> simp [hcharge]

end Audit

/-! ## The dispute resolver -/

namespace Dispute

variable {γ : Type}

theorem Resolver.ensureJudge_null (r : Resolver) :
    r.ensureJudge Address.null = .error (.notJudge Address.null) := by
  rw [ensureJudge, if_pos]
  simpa [Address.isNull] using Decidable.em (r.judge = Address.null)

theorem Resolver.award_null (env : Environment γ) (job : JobId) (employerWins : Bool)
    (site : Site Resolver γ) :
    ((award env Address.null job employerWins).run site).1 = .error (.notJudge Address.null) := by
  simp [award, ensureJudge_null]

/-- Whether an operation is only for those that the resolver trusts. -/
def Command.isTrusted : Command → Bool
  | .raise _ _ | .abandonRaise _ _ => false
  | _ => true

theorem run_null (env : Environment γ) {command : Command} (h : command.isTrusted = true)
    (site : Site Resolver γ) :
    ∃ cause, (Resolver.perform env Address.null command).run site = (.error cause, site) := by
  cases hcommand : command.isAdministrative with
  | true =>
      refine ⟨_, (charter_governs env (Address.null, command)).refused ?_ rfl
        (Authority.not_isHeldBy_null _)⟩
      simp [charter, hcommand]
  | false =>
      cases command with
      | raise | abandonRaise => cases h
      | resolve job employerWins =>
          rw [Resolver.perform, run_bind, Resolver.run_resolve, Resolver.award_null]
          exact ⟨_, rfl⟩
      | abandonResolve job employerWins =>
          rw [Resolver.perform, abandon, (Resolver.award_readOnly _ _ _ _).run_bind,
            Resolver.award_null]
          exact ⟨_, rfl⟩
      | _ => cases hcommand

end Dispute

/-! ## The engine -/

namespace Engine

/-- The caller of an action that is only for those that a subsystem trusts. -/
def Action.trusted? : Action → Option Address
  | .temperature caller _ => some caller
  | .audit caller _ => some caller
  | .dispute caller command => if command.isTrusted then some caller else none
  | _ => none

/-- What an action that was answered decided about an auditor. -/
def Entry.decides? (auditor : Address) (entry : Entry) : Option Bool :=
  entry.audited?.bind fun call => Audit.decides? auditor call.1 call.2

/-- Whether an action records the outcome of an audit. -/
def Action.isOutcome : Action → Bool
  | .audit _ (.record _ _ _) => true
  | _ => false

section Refusals

variable {engine : Engine} (now : Timestamp) {caller : Address}

theorem actTemperature_of_refused {c : Temperature.Controller} (hc : engine.temperature = some c)
    {command : Temperature.Command} {cause : Temperature.Error}
    (h : (Temperature.Controller.perform caller command).run (.start c ()) =
      (.error cause, .start c ())) :
    engine.actTemperature now caller command = (engine, .error (.temperature cause)) := by
  simp only [actTemperature, hc, h]
  simp only [Site.start, note_nil, ← hc]
  rfl

theorem actAudit_of_refused {s : Audit.Scheduler} (hs : engine.audit = some s)
    {command : Audit.Command} {cause : Audit.Error}
    (h : (Audit.Scheduler.perform (auditEnvironment engine.collaborators) caller command).run
        (.start s engine.collaborators.book) =
      (.error cause, .start s engine.collaborators.book)) :
    engine.actAudit now caller command = (engine, .error (.audit cause)) := by
  simp only [actAudit, hs, h]
  simp only [Site.start, note_nil, ← hs]
  rfl

theorem actDispute_of_refused {r : Dispute.Resolver} (hr : engine.disputes = some r)
    {command : Dispute.Command} {cause : Dispute.Error}
    (h : (Dispute.Resolver.perform (disputeEnvironment engine.collaborators r) caller command).run
        (.start r engine.collaborators.ledger) =
      (.error cause, .start r engine.collaborators.ledger)) :
    engine.actDispute now caller command = (engine, .error (.dispute cause)) := by
  simp only [actDispute, hr, h]
  simp only [Site.start, note_nil, ← hr]
  rfl

end Refusals

/-- Whatever is only for the trusted is refused to the null address, and nothing comes of it, while
the null address is not on the list of auditors. -/
theorem act_null (engine : Engine) (now : Timestamp) {action : Action}
    (haction : action.trusted? = some Address.null)
    (h : ∀ s job passed details, engine.audit = some s →
      action = .audit Address.null (.record job passed details) →
        s.isAuditor Address.null = false) :
    ∃ cause, engine.act now action = (engine, .error cause) := by
  cases action with
  | temperature caller command =>
      obtain rfl := Option.some.inj haction
      cases hc : engine.temperature with
      | none => exact ⟨.absent .temperature, by simp only [act, actTemperature, hc]⟩
      | some c =>
          have hheld : (Site.start c ()).state.authority.isHeldBy Address.null = false :=
            Authority.not_isHeldBy_null _
          exact ⟨_, actTemperature_of_refused now hc (Temperature.run_of_not_held command hheld)⟩
  | audit caller command =>
      obtain rfl := Option.some.inj haction
      cases hs : engine.audit with
      | none => exact ⟨.absent .audit, by simp only [act, actAudit, hs]⟩
      | some s =>
          obtain ⟨cause, hrun⟩ := Audit.run_null (auditEnvironment engine.collaborators) command
            (.start s engine.collaborators.book) (by
              rintro job passed details rfl
              exact h s job passed details hs rfl)
          exact ⟨_, actAudit_of_refused now hs hrun⟩
  | dispute caller command =>
      simp only [Action.trusted?, Option.ite_none_right_eq_some] at haction
      obtain ⟨htrusted, hcaller⟩ := haction
      obtain rfl := Option.some.inj hcaller
      cases hr : engine.disputes with
      | none => exact ⟨.absent .disputes, by simp only [act, actDispute, hr]⟩
      | some r =>
          obtain ⟨cause, hrun⟩ := Dispute.run_null (disputeEnvironment engine.collaborators r)
            htrusted (.start r engine.collaborators.ledger)
          exact ⟨_, actDispute_of_refused now hr hrun⟩
  | _ => cases haction

/-- An address is on the list as was decided about it last, or else as the configuration says. -/
theorem isAuditor_after {config : Config} {collaborators : Collaborators}
    {withSink withMetrics : Bool} {engine : Engine}
    (h : build config collaborators withSink withMetrics = .ok engine) (auditor : Address)
    (clock : Nat → Timestamp) (actions : List Action) :
    ∃ s, (engine.after clock actions).audit = some s ∧
      s.isAuditor auditor =
        (latest (Entry.decides? auditor) (engine.history clock actions)).getD
          (config.audit.auditors.contains auditor) := by
  have hread := bind_audit_after engine clock actions (fun s => some (s.isAuditor auditor))
    (fun _ => Audit.decides? auditor) fun hstep => by
      rw [hstep.isAuditor auditor, Option.or_some]
      rfl
  obtain ⟨-, c, s, -, hs, rfl⟩ := build_eq_ok.mp h
  rw [Option.bind_some, Audit.isAuditor_of_make hs, Option.or_some] at hread
  obtain ⟨later, hlater, hlisted⟩ := Option.bind_eq_some_iff.mp hread
  exact ⟨later, hlater, Option.some.inj hlisted⟩

/-- Every valid configuration gives an engine. After any history of it, whatever is only for the
trusted is refused to the null address, and nothing comes of it; but for the outcomes of audits,
while the null address is on the list of auditors. It is there exactly when it was admitted last, or
was never decided about and is on the list of the configuration, and then its outcomes are answered
like those of any other auditor. -/
theorem null_refused {config : Config} (h : config.validate = .ok ())
    (collaborators : Collaborators) (withSink withMetrics : Bool) :
    ∃ engine, build config collaborators withSink withMetrics = .ok engine ∧
      ∀ (clock : Nat → Timestamp) (actions : List Action) (now : Timestamp),
        let later := engine.after clock actions
        let listed := (latest (Entry.decides? Address.null) (engine.history clock actions)).getD
          (config.audit.auditors.contains Address.null)
        (∀ action, action.trusted? = some Address.null →
          (action.isOutcome = true → listed = false) →
            ∃ cause, later.act now action = (later, .error cause)) ∧
          ∀ auditor job passed details, listed = true →
            later.audit.any (fun s => s.isAuditor auditor) = true →
              (later.act now (.audit Address.null (.record job passed details))).2 =
                (later.act now (.audit auditor (.record job passed details))).2 := by
  obtain ⟨engine, hbuild⟩ := exists_build h collaborators withSink withMetrics
  refine ⟨engine, hbuild, ?_⟩
  intro clock actions now later listed
  obtain ⟨s, hs, hlisted⟩ := isAuditor_after hbuild Address.null clock actions
  constructor
  · intro action haction houtcome
    apply act_null later now haction
    rintro s' job passed details hs' rfl
    obtain rfl : s = s' := Option.some.inj (hs.symm.trans hs')
    exact hlisted.trans (houtcome rfl)
  · intro auditor job passed details hnull hauditor
    have hothers : s.isAuditor auditor = true := by simpa [later, hs] using hauditor
    have hanswer := Audit.run_record_of_isAuditor (.start s later.collaborators.book)
      (hlisted.trans hnull) hothers (auditEnvironment later.collaborators) job passed details
    simp only [act, actAudit, later, hs] at hanswer ⊢
    rw [hanswer]

/-- The null address is admitted as an auditor and dismissed. Every other trust is given to it for
good, and it gains nothing by that. -/
theorem null_refused_renounced :
    let holder := Address.filled 0xA1
    let job := JobId.ofNat 7
    let config := Config.entrusted holder [holder] Amount.zero Amount.zero
    let engine := entrusted holder [holder] Amount.zero Amount.zero true false
    let gifts : List Action := [
      .audit holder (.setAuditor Address.null true),
      .audit holder (.setAuditor Address.null false),
      .temperature holder (.transferAuthority Address.null),
      .audit holder (.setNotifier Address.null),
      .audit holder (.transferAuthority Address.null),
      .dispute holder (.setJudge Address.null),
      .dispute holder (.transferAuthority Address.null)]
    let attempts : List Action := [
      .temperature Address.null (.tick ⟨1, 0, 0⟩),
      .audit Address.null (.finalize job holder true Word.zero),
      .audit Address.null (.record job true ""),
      .audit Address.null .pause,
      .dispute Address.null (.resolve job false),
      .dispute Address.null (.setMinJurySize 0)]
    let later := engine.after (fun _ => default) gifts
    config.validate = .ok () ∧ build config .fresh true false = .ok engine ∧
      later.log.size = gifts.length ∧
      ∀ action ∈ attempts, ∃ cause, later.act default action = (later, .error cause) := by
  intro holder job config engine gifts attempts later
  have hvalid : config.validate = .ok () := Config.validate_entrusted rfl _ _ _
  have hbuild : build config .fresh true false = .ok engine := build_entrusted rfl _ _ _ _ _
  refine ⟨hvalid, hbuild, by decide +kernel, ?_⟩
  obtain ⟨built, hbuilt, hrefused⟩ := null_refused hvalid .fresh true false
  obtain rfl : engine = built := Except.ok.inj (hbuild.symm.trans hbuilt)
  have hlisted : (latest (Entry.decides? Address.null)
      (engine.history (fun _ => default) gifts)).getD
        (config.audit.auditors.contains Address.null) = false := by
    decide +kernel
  have htrusted : ∀ action ∈ attempts, action.trusted? = some Address.null := by
    simp [attempts, Action.trusted?, Dispute.Command.isTrusted]
  intro action haction
  exact (hrefused (fun _ => default) gifts default).1 action (htrusted action haction)
    fun _ => hlisted

/-- The null address is on the list of a valid configuration, and records an outcome. -/
theorem null_records_outcome :
    let holder := Address.filled 0xA1
    let job := JobId.ofNat 7
    let config := Config.entrusted holder [Address.null] Amount.zero Amount.zero
    let engine := entrusted holder [Address.null] Amount.zero Amount.zero false false
    let actions : List Action := [.audit holder (.finalize job holder true Word.zero)]
    let later := engine.after (fun _ => default) actions
    let outcome : Action := .audit Address.null (.record job true "")
    config.validate = .ok () ∧ build config .fresh false false = .ok engine ∧
      outcome.trusted? = some Address.null ∧
      (later.act default outcome).2 =
        .ok (.audit (some ⟨holder, Word.zero, Word.zero, 0, true, true⟩)) ∧
      (later.act default outcome).1.audit ≠ later.audit := by
  intro holder job config engine actions later outcome
  have hvalid : config.validate = .ok () := Config.validate_entrusted rfl _ _ _
  have hbuild : build config .fresh false false = .ok engine := build_entrusted rfl _ _ _ _ _
  exact ⟨hvalid, hbuild, rfl, by decide +kernel, by decide +kernel⟩

end Engine

end Integrity
