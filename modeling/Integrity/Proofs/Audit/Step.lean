import Integrity.Audit.Scheduler

/-! # Steps of the audit scheduler

What an operation can do. A penalty is taken before anything is recorded, and a report that is not
to be audited is dropped before its seed is drawn; so an operation that fails, or that drops a
report, has not yet changed anything. -/

namespace Integrity.Audit

open Operation

variable {β : Type}

namespace Scheduler

/-- A report of a job that nobody did well, or while no job is audited. -/
def Idle (s : Scheduler) (agent : Address) (success : Bool) : Prop :=
  success = false ∨ agent.isNull = true ∨ s.probability = 0

instance (s : Scheduler) (agent : Address) (success : Bool) : Decidable (s.Idle agent success) :=
  inferInstanceAs (Decidable (_ ∨ _ ∨ _))

/-- The scheduler after a seed was drawn. -/
def evaluated (s : Scheduler) : Scheduler :=
  { s with stats := { s.stats with evaluated := s.stats.evaluated + 1 } }

/-- The scheduler after a job was selected. -/
def scheduled (s : Scheduler) (job : JobId) (record : Record) : Scheduler :=
  { s.evaluated with
    records := s.records.insert job record
    stats := Stats.schedule s.evaluated.stats (s.audit job) }

/-- The scheduler after an outcome was recorded. -/
def recorded (s : Scheduler) (job : JobId) (found : Record) (passed penalized : Bool) :
    Scheduler :=
  { s with
    records := s.records.insert job { found with completed := true, passed }
    stats := Stats.complete s.stats passed penalized }

theorem audit_scheduled (s : Scheduler) (job other : JobId) (record : Record) :
    (s.scheduled job record).audit other =
      if job = other then some record else s.audit other :=
  Table.get?_insert _ _ _ _

theorem audit_recorded (s : Scheduler) (job other : JobId) (found : Record)
    (passed penalized : Bool) :
    (s.recorded job found passed penalized).audit other =
      if job = other then some { found with completed := true, passed } else s.audit other :=
  Table.get?_insert _ _ _ _

/-! ## Where the operations leave a site -/

/-- Where a site is left when a job is not selected. -/
def afterPassing (site : Site Scheduler β) : Site Scheduler β :=
  { site with state := site.state.evaluated }

/-- Where a site is left when a job is selected. -/
def afterScheduling (site : Site Scheduler β) (job : JobId) (record : Record) :
    Site Scheduler β where
  state := site.state.scheduled job record
  outside := site.outside
  events := site.events ++
    [.auditScheduled job record.agent (String.ofList (Hex.encode record.seed.bytes))
      (site.state.audit job).isSome]
  readings := site.readings ++ [.auditScheduled]

/-- The events of an outcome: the outcome, and the penalty if there was one. -/
def outcomeEvents (caller : Address) (job : JobId) (passed : Bool) (details : String) :
    Option (Address × Amount) → List Event
  | none => [.auditRecorded job caller passed details]
  | some (agent, amount) =>
    [.auditRecorded job caller passed details, .agentPenalized job agent amount]

/-- The readings of an outcome. -/
def outcomeReadings : Option (Address × Amount) → List Reading
  | none => [.auditRecorded]
  | some _ => [.auditRecorded, .penaltyApplied]

/-- Where a site is left when an outcome is recorded. -/
def afterRecording (site : Site Scheduler β) (book : β) (caller : Address) (job : JobId)
    (found : Record) (passed : Bool) (details : String) : Site Scheduler β where
  state := site.state.recorded job found passed (site.state.penaltyFor found passed).isSome
  outside := book
  events := site.events ++
    outcomeEvents caller job passed details (site.state.penaltyFor found passed)
  readings := site.readings ++ outcomeReadings (site.state.penaltyFor found passed)

/-- What taking a penalty makes of the penalty sink. -/
def charge (sink : β → Address → Amount → Except CollaboratorError β) (book : β) :
    Option (Address × Amount) → Except CollaboratorError β
  | none => .ok book
  | some (agent, amount) => sink book agent amount

theorem not_idle {s : Scheduler} {agent : Address} {success : Bool} :
    ¬s.Idle agent success ↔ success = true ∧ agent.isNull = false ∧ s.probability ≠ 0 := by
  simp [Idle]

/-- A scheduler that was made has no audits and has counted nothing. -/
theorem blank_of_make {authority : Address} {settings : Settings} {sinkConnected : Bool}
    {s : Scheduler} (h : make authority settings sinkConnected = .ok s) :
    s.records = Table.empty ∧ s.stats = Stats.zero := by
  simp only [make] at h
  cases hprobability : ensureProbability settings.probability with
  | error cause =>
      rw [hprobability] at h
      cases h
  | ok passed =>
      rw [hprobability] at h
      cases h
      exact ⟨rfl, rfl⟩

/-- The checks before an outcome is recorded, in their order. -/
theorem openAudit_eq (s : Scheduler) (caller : Address) (job : JobId) :
    s.openAudit caller job =
      if s.paused then .error .paused
      else if s.isAuditor caller then
        match s.audit job with
        | none => .error (.notScheduled job)
        | some record =>
          if record.completed then .error (.alreadyCompleted job) else .ok record
      else .error (.unauthorized caller) := by
  simp only [openAudit, ensureRunning]
  cases s.paused with
  | true => rfl
  | false =>
      cases s.isAuditor caller with
      | false => rfl
      | true =>
          cases s.audit job with
          | none => rfl
          | some record =>
              obtain ⟨agent, result, seed, timestamp, completed, passed⟩ := record
              cases completed <;> rfl

/-- An outcome may be recorded by an auditor, while audits do not stand still, of an audit that has
none. -/
theorem openAudit_eq_ok {s : Scheduler} {caller : Address} {job : JobId} {record : Record} :
    s.openAudit caller job = .ok record ↔
      s.paused = false ∧ s.isAuditor caller = true ∧ s.audit job = some record ∧
        record.completed = false := by
  rw [openAudit_eq]
  cases s.paused with
  | true => simp
  | false =>
      cases s.isAuditor caller with
      | false => simp
      | true =>
          cases s.audit job with
          | none => simp
          | some found => cases hcompleted : found.completed <;> grind

/-- A penalty is due for a failed audit, while there is a penalty sink and an amount to take. -/
theorem penaltyFor_eq (s : Scheduler) (record : Record) (passed : Bool) :
    s.penaltyFor record passed =
      if passed = false ∧ s.sinkConnected = true ∧ s.penalty.units ≠ 0 then
        some (record.agent, s.penalty)
      else none := by
  cases passed <;> simp [penaltyFor, Amount.isZero]

theorem run_finalize (seeds : SeedSource) (chain : ChainSnapshot) (caller : Address)
    (job : JobId) (agent : Address) (success : Bool) (result : Digest)
    (site : Site Scheduler β) :
    (finalize seeds chain caller job agent success result).run site =
      match site.state.ensureRunning with
      | .error cause => (.error cause, site)
      | .ok () =>
        match site.state.ensureNotifier caller with
        | .error cause => (.error cause, site)
        | .ok () =>
          if site.state.Idle agent success then (.ok none, site)
          else if (site.state.audit job).isSome ∧ site.state.policy = .rejectExisting then
            (.error (.alreadyScheduled job), site)
          else if isSelected (seeds ⟨job, agent, result⟩ chain) site.state.probability then
            let record : Record :=
              ⟨agent, result, seeds ⟨job, agent, result⟩ chain, chain.timestamp, false, false⟩
            (.ok (some record), afterScheduling site job record)
          else (.ok none, afterPassing site) := by
  cases hrunning : site.state.ensureRunning with
  | error cause => simp [finalize, hrunning]
  | ok passed =>
      cases hnotifier : site.state.ensureNotifier caller with
      | error cause => simp [finalize, hrunning, hnotifier]
      | ok passed =>
          by_cases hidle : site.state.Idle agent success
          · rcases hidle with hfailed | hnobody | hnever
            · simp [finalize, hrunning, hnotifier, Idle, hfailed]
            · simp [finalize, hrunning, hnotifier, Idle, hnobody]
            · simp [finalize, hrunning, hnotifier, Idle, hnever]
          · obtain ⟨hsuccess, hagent, hprobability⟩ := not_idle.mp hidle
            by_cases htaken : (site.state.audit job).isSome ∧ site.state.policy = .rejectExisting
            · simp [finalize, hrunning, hnotifier, hsuccess, hagent, hprobability, Idle,
                htaken]
            · by_cases hselected :
                  isSelected (seeds ⟨job, agent, result⟩ chain) site.state.probability = true
              · simp [finalize, hrunning, hnotifier, hsuccess, hagent, hprobability, Idle,
                  if_neg htaken, hselected, afterScheduling, scheduled, evaluated]
              · simp [finalize, hrunning, hnotifier, hsuccess, hagent, hprobability, Idle,
                  if_neg htaken, hselected, afterPassing, evaluated]

theorem run_record (sink : β → Address → Amount → Except CollaboratorError β)
    (caller : Address) (job : JobId) (passed : Bool) (details : String)
    (site : Site Scheduler β) :
    (record sink caller job passed details).run site =
      match site.state.openAudit caller job with
      | .error cause => (.error cause, site)
      | .ok found =>
        match charge sink site.outside (site.state.penaltyFor found passed) with
        | .error cause => (.error (.collaborator cause), site)
        | .ok book =>
          (.ok { found with completed := true, passed },
            afterRecording site book caller job found passed details) := by
  cases hopen : site.state.openAudit caller job with
  | error cause => simp [record, hopen]
  | ok found =>
      cases hpenalty : site.state.penaltyFor found passed with
      | none =>
          simp [record, hopen, hpenalty, penalize, charge, afterRecording, recorded, tellPenalty,
            outcomeEvents, outcomeReadings]
      | some penalty =>
          obtain ⟨agent, amount⟩ := penalty
          cases hsink : sink site.outside agent amount <;>
            simp [record, hopen, hpenalty, penalize, charge, afterRecording, recorded,
              tellPenalty, outcomeEvents, outcomeReadings, hsink]

end Scheduler

/-! ## One step -/

/-- What an administrative operation changes, and the event that tells of it. -/
def Command.amendment : Command → Option ((Scheduler → Scheduler) × (Scheduler → Event))
  | .transferAuthority new =>
    some (fun s => { s with authority := ⟨new⟩ },
      fun s => .authorityTransferred .audit s.authority.holder new)
  | .setNotifier notifier =>
    some (fun s => { s with notifier }, fun _ => .notifierUpdated notifier)
  | .setSink connected =>
    some (fun s => { s with sinkConnected := connected }, fun _ => .penaltySinkUpdated connected)
  | .setProbability probability =>
    some (fun s => { s with probability }, fun _ => .auditProbabilityUpdated probability)
  | .setPenalty penalty =>
    some (fun s => { s with penalty }, fun _ => .penaltyAmountUpdated penalty)
  | .setAuditor auditor allowed =>
    some
      (fun s =>
        { s with
          auditors := if allowed then s.auditors.insert auditor else s.auditors.remove auditor },
        fun _ => .auditorUpdated auditor allowed)
  | .setPolicy policy =>
    some (fun s => { s with policy }, fun _ => .reschedulePolicyUpdated policy.name)
  | .pause => some (fun s => { s with paused := true }, fun _ => .auditPaused)
  | .unpause => some (fun s => { s with paused := false }, fun _ => .auditUnpaused)
  | .finalize _ _ _ _ | .record _ _ _ => none

/-- Administration leaves the audits and the counts as they are. -/
theorem keeps_of_amendment {command : Command} {change : Scheduler → Scheduler}
    {event : Scheduler → Event} (h : command.amendment = some (change, event)) (s : Scheduler) :
    (change s).records = s.records ∧ (change s).stats = s.stats := by
  cases command <;> cases h <;> exact ⟨rfl, rfl⟩

/-- What one operation may do: how it ends, and where it leaves the site. -/
inductive Step (env : Environment β) (caller : Address) (before : Site Scheduler β) :
    Command → Except Error Answer → Site Scheduler β → Prop
  | refused (command : Command) (cause : Error) :
      Step env caller before command (.error cause) before
  | amended {command : Command} {change : Scheduler → Scheduler} {event : Scheduler → Event}
      (hcommand : command.amendment = some (change, event))
      (hauthority : before.state.ensureAuthority caller = .ok ())
      (hprobability : ∀ probability, command = .setProbability probability →
        Scheduler.ensureProbability probability = .ok ()) :
      Step env caller before command (.ok none)
        { before with
          state := change before.state, events := before.events ++ [event before.state] }
  | ignored {job : JobId} {agent : Address} {success : Bool} {result : Digest}
      (hrunning : before.state.ensureRunning = .ok ())
      (hnotifier : before.state.ensureNotifier caller = .ok ())
      (hidle : before.state.Idle agent success) :
      Step env caller before (.finalize job agent success result) (.ok none) before
  | passed {job : JobId} {agent : Address} {success : Bool} {result : Digest}
      (hrunning : before.state.ensureRunning = .ok ())
      (hnotifier : before.state.ensureNotifier caller = .ok ())
      (hbusy : ¬before.state.Idle agent success)
      (hfree : ¬((before.state.audit job).isSome ∧ before.state.policy = .rejectExisting))
      (hseed : ¬isSelected (env.seeds ⟨job, agent, result⟩ env.chain) before.state.probability) :
      Step env caller before (.finalize job agent success result) (.ok none)
        (Scheduler.afterPassing before)
  | scheduled {job : JobId} {agent : Address} {success : Bool} {result : Digest}
      {record : Record}
      (hrunning : before.state.ensureRunning = .ok ())
      (hnotifier : before.state.ensureNotifier caller = .ok ())
      (hbusy : ¬before.state.Idle agent success)
      (hfree : ¬((before.state.audit job).isSome ∧ before.state.policy = .rejectExisting))
      (hseed : isSelected (env.seeds ⟨job, agent, result⟩ env.chain) before.state.probability)
      (hrecord : record = ⟨agent, result, env.seeds ⟨job, agent, result⟩ env.chain,
        env.chain.timestamp, false, false⟩) :
      Step env caller before (.finalize job agent success result) (.ok (some record))
        (Scheduler.afterScheduling before job record)
  | recorded {job : JobId} {passed : Bool} {details : String} {found : Record} {book : β}
      (hopen : before.state.openAudit caller job = .ok found)
      (hcharge :
        Scheduler.charge env.sink before.outside (before.state.penaltyFor found passed) =
          .ok book) :
      Step env caller before (.record job passed details)
        (.ok (some { found with completed := true, passed }))
        (Scheduler.afterRecording before book caller job found passed details)

theorem step_finalize (env : Environment β) (caller : Address) (job : JobId) (agent : Address)
    (success : Bool) (result : Digest) (before : Site Scheduler β) :
    Step env caller before (.finalize job agent success result)
      ((Scheduler.perform env caller (.finalize job agent success result)).run before).1
      ((Scheduler.perform env caller (.finalize job agent success result)).run before).2 := by
  rw [Scheduler.perform, Scheduler.run_finalize]
  cases hrunning : before.state.ensureRunning with
  | error cause => exact .refused _ cause
  | ok passed =>
      cases hnotifier : before.state.ensureNotifier caller with
      | error cause => exact .refused _ cause
      | ok passed =>
          by_cases hidle : before.state.Idle agent success
          · simp only [if_pos hidle]
            exact .ignored hrunning hnotifier hidle
          · by_cases htaken :
                (before.state.audit job).isSome ∧ before.state.policy = .rejectExisting
            · simp only [if_neg hidle, if_pos htaken]
              exact .refused _ _
            · by_cases hseed :
                  isSelected (env.seeds ⟨job, agent, result⟩ env.chain)
                    before.state.probability = true
              · simp only [if_neg hidle, if_neg htaken, if_pos hseed]
                exact .scheduled hrunning hnotifier hidle htaken hseed rfl
              · simp only [if_neg hidle, if_neg htaken, if_neg hseed]
                exact .passed hrunning hnotifier hidle htaken hseed

theorem step_record (env : Environment β) (caller : Address) (job : JobId) (passed : Bool)
    (details : String) (before : Site Scheduler β) :
    Step env caller before (.record job passed details)
      ((Scheduler.perform env caller (.record job passed details)).run before).1
      ((Scheduler.perform env caller (.record job passed details)).run before).2 := by
  rw [Scheduler.perform, run_bind, Scheduler.run_record]
  cases hopen : before.state.openAudit caller job with
  | error cause => exact .refused _ cause
  | ok found =>
      cases hcharge :
          Scheduler.charge env.sink before.outside (before.state.penaltyFor found passed) with
      | error cause => simpa [hcharge] using Step.refused _ _
      | ok book => simpa [hcharge] using Step.recorded hopen hcharge

theorem step_administer (env : Environment β) (caller : Address) {command : Command}
    {change : Scheduler → Scheduler} {event : Scheduler → Event} (before : Site Scheduler β)
    (hcommand : command.amendment = some (change, event))
    (hother : ∀ probability, command ≠ .setProbability probability) :
    Step env caller before command
      ((settle (Scheduler.administer caller change event)).run before).1
      ((settle (Scheduler.administer caller change event)).run before).2 := by
  rw [settle, run_bind, Scheduler.administer, run_amend]
  cases hauthority : before.state.ensureAuthority caller with
  | error cause => exact .refused _ cause
  | ok passed =>
      refine .amended hcommand hauthority ?_
      intro probability hprobability
      exact absurd hprobability (hother probability)

theorem step_setProbability (env : Environment β) (caller : Address) (probability : UInt16)
    (before : Site Scheduler β) :
    Step env caller before (.setProbability probability)
      ((Scheduler.perform env caller (.setProbability probability)).run before).1
      ((Scheduler.perform env caller (.setProbability probability)).run before).2 := by
  rw [Scheduler.perform, settle, run_bind, Scheduler.setProbability, run_amend]
  cases hauthority : before.state.ensureAuthority caller with
  | error cause => exact .refused _ cause
  | ok passed =>
      cases hprobability : Scheduler.ensureProbability probability with
      | error cause => exact .refused _ cause
      | ok passed =>
          have hcommand : (Command.setProbability probability).amendment =
              some (fun s => { s with probability },
                fun _ => .auditProbabilityUpdated probability) :=
            rfl
          refine .amended hcommand hauthority ?_
          rintro _ ⟨⟩
          exact hprobability

/-- Every operation takes one of the steps. -/
theorem perform_step (env : Environment β) (caller : Address) (command : Command)
    (before : Site Scheduler β) :
    Step env caller before command
      ((Scheduler.perform env caller command).run before).1
      ((Scheduler.perform env caller command).run before).2 := by
  cases command with
  | finalize job agent success result =>
      exact step_finalize env caller job agent success result before
  | record job passed details => exact step_record env caller job passed details before
  | setProbability probability => exact step_setProbability env caller probability before
  | transferAuthority new => exact step_administer env caller before rfl (by simp)
  | setNotifier notifier => exact step_administer env caller before rfl (by simp)
  | setSink connected => exact step_administer env caller before rfl (by simp)
  | setPenalty penalty => exact step_administer env caller before rfl (by simp)
  | setAuditor auditor allowed => exact step_administer env caller before rfl (by simp)
  | setPolicy policy => exact step_administer env caller before rfl (by simp)
  | pause => exact step_administer env caller before rfl (by simp)
  | unpause => exact step_administer env caller before rfl (by simp)

theorem subsystem_of_amendment {command : Command} {change : Scheduler → Scheduler}
    {event : Scheduler → Event} (h : command.amendment = some (change, event)) (s : Scheduler) :
    (event s).subsystem = .audit := by
  cases command <;> cases h <;> rfl

theorem Scheduler.subsystem_of_mem_outcomeEvents {caller : Address} {job : JobId} {passed : Bool}
    {details : String} {penalty : Option (Address × Amount)} {event : Event}
    (h : event ∈ outcomeEvents caller job passed details penalty) : event.subsystem = .audit := by
  cases penalty with
  | none =>
      obtain rfl := List.mem_singleton.mp h
      rfl
  | some penalty =>
      simp only [outcomeEvents, List.mem_cons, List.not_mem_nil, or_false] at h
      rcases h with rfl | rfl <;> rfl

/-- The events that a step adds are about audits. -/
theorem Step.subsystem {env : Environment β} {caller : Address} {command : Command}
    {answer : Except Error Answer} {before after : Site Scheduler β}
    (h : Step env caller before command answer after) :
    ∃ new, after.events = before.events ++ new ∧ ∀ event ∈ new, event.subsystem = .audit := by
  cases h with
  | refused _ _ => exact ⟨[], (List.append_nil _).symm, by simp⟩
  | ignored _ _ _ => exact ⟨[], (List.append_nil _).symm, by simp⟩
  | passed _ _ _ _ _ => exact ⟨[], (List.append_nil _).symm, by simp⟩
  | amended hcommand _ _ => exact ⟨_, rfl, by simpa using subsystem_of_amendment hcommand _⟩
  | scheduled _ _ _ _ _ _ => exact ⟨_, rfl, by simp [Event.subsystem]⟩
  | recorded _ _ => exact ⟨_, rfl, fun _ => Scheduler.subsystem_of_mem_outcomeEvents⟩

/-- An operation that fails leaves everything as it is. -/
theorem Step.eq_of_error {env : Environment β} {caller : Address} {command : Command}
    {cause : Error} {before after : Site Scheduler β}
    (h : Step env caller before command (.error cause) after) : after = before := by
  cases h
  rfl

/-- So does a report that is dropped before its seed is drawn. -/
theorem Step.eq_of_idle {env : Environment β} {caller agent : Address} {job : JobId}
    {success : Bool} {result : Digest} {answer : Except Error Answer}
    {before after : Site Scheduler β}
    (h : Step env caller before (.finalize job agent success result) answer after)
    (hidle : before.state.Idle agent success) : after = before := by
  cases h with
  | refused _ cause => rfl
  | amended hcommand _ _ => cases hcommand
  | ignored _ _ _ => rfl
  | passed _ _ hbusy _ _ => exact absurd hidle hbusy
  | scheduled _ _ hbusy _ _ _ => exact absurd hidle hbusy

end Integrity.Audit
