import Integrity.Proofs.Audit.Penalties

/-! # The audit trail

What the log tells of the audits is a trail that can be checked event by event: an outcome closes
the last scheduling of its job, a penalty follows a bad outcome at once. The trail tells of each
audit whose it is, what selected it and how it ended, and how often everything happened; other
events that share the log do not matter. -/

namespace Integrity

/-! ## Events about audits -/

/-- Whether an event tells of an outcome for a job. -/
def Event.concludes (job : JobId) : Event → Bool
  | .auditRecorded recorded _ _ _ => recorded = job
  | _ => false

/-- Whether an event tells that some job is to be audited. -/
@[simp]
def Event.isScheduling : Event → Bool
  | .auditScheduled _ _ _ _ => true
  | _ => false

/-- Whether an event tells that an audit takes the place of another. -/
@[simp]
def Event.isReplacement : Event → Bool
  | .auditScheduled _ _ _ replaced => replaced
  | _ => false

/-- Whether an event tells of an outcome. -/
@[simp]
def Event.isOutcome : Event → Bool
  | .auditRecorded _ _ _ _ => true
  | _ => false

/-- Whether an event tells of a good outcome. -/
@[simp]
def Event.isPass : Event → Bool
  | .auditRecorded _ _ passed _ => passed
  | _ => false

/-- Whether an event tells of a bad outcome. -/
@[simp]
def Event.isFailure : Event → Bool
  | .auditRecorded _ _ passed _ => !passed
  | _ => false

/-- Whether an event tells of a penalty. -/
@[simp]
def Event.isPenalty : Event → Bool
  | .agentPenalized _ _ _ => true
  | _ => false

/-- Whether an event tells nothing of any audit. -/
def Event.isAside : Event → Bool
  | .auditScheduled _ _ _ _ | .auditRecorded _ _ _ _ | .agentPenalized _ _ _ => false
  | _ => true

namespace Audit

open Operation

variable {β : Type}

/-! ## What the trail tells -/

/-- The rule of the trail. The first scheduling of a job replaces nothing and every later one
replaces an audit; an outcome is the only one since its job was last scheduled; a penalty comes
right after a bad outcome of its job, for the agent with which the job was last scheduled. -/
def Fits (before : List Event) : Event → Prop
  | .auditScheduled job _ _ replaced => replaced = before.any (Event.schedules job)
  | .auditRecorded job _ _ _ => ClearSince (Event.schedules job) (Event.concludes job) before
  | .agentPenalized job agent _ =>
    (∃ auditor details, before.getLast? = some (.auditRecorded job auditor false details)) ∧
      ∃ earlier seed replaced later,
        before = earlier ++ .auditScheduled job agent seed replaced :: later ∧
          ∀ event ∈ later, event.schedules job = false
  | _ => True

/-- The seed of an audit, as events tell it. -/
def Record.seedText (record : Record) : String :=
  String.ofList (Hex.encode record.seed.bytes)

/-- What the trail tells of an audit: its agent and its seed, where the job was last scheduled, and
since then its outcome, if it has one. -/
def Record.IsTold (record : Record) (job : JobId) (trail : List Event) : Prop :=
  ∃ earlier replaced later,
    trail = earlier ++ .auditScheduled job record.agent record.seedText replaced :: later ∧
      (∀ event ∈ later, event.schedules job = false) ∧
        if record.completed then
          ∃ auditor details, later.filter (Event.concludes job) =
            [.auditRecorded job auditor record.passed details]
        else later.filter (Event.concludes job) = [] ∧ record.passed = false

/-- The trail tells of the audit of a job, or the job has none because it was never scheduled. -/
structure Traced (job : JobId) (trail : List Event) (found : Option Record) : Prop where
  none_iff : found = none ↔ ∀ event ∈ trail, event.schedules job = false
  told : ∀ record, found = some record → record.IsTold job trail

/-- The counts are the numbers of the events. -/
structure Stats.Tallied (stats : Stats) (trail : List Event) : Prop where
  scheduled : stats.scheduled = trail.countP Event.isScheduling
  replaced : stats.replaced = trail.countP Event.isReplacement
  completed : stats.completed = trail.countP Event.isOutcome
  passed : stats.passed = trail.countP Event.isPass
  failed : stats.failed = trail.countP Event.isFailure
  penaltiesApplied : stats.penaltiesApplied = trail.countP Event.isPenalty

/-- The trail follows its rule and tells of all audits and counts. -/
structure Scheduler.Recounted (s : Scheduler) (trail : List Event) : Prop where
  orderly : Orderly Fits trail
  traced : ∀ job, Traced job trail (s.audit job)
  tallied : s.stats.Tallied trail

/-! ## One more event -/

theorem traced_none {job : JobId} {trail : List Event}
    (h : ∀ event ∈ trail, event.schedules job = false) : Traced job trail none :=
  ⟨iff_of_true rfl h, by simp⟩

theorem traced_some {job : JobId} {trail : List Event} {record : Record}
    (h : record.IsTold job trail) : Traced job trail (some record) := by
  refine ⟨iff_of_false (by simp) ?_, ?_⟩
  · obtain ⟨earlier, replaced, later, rfl, -, -⟩ := h
    intro hnever
    simpa [Event.schedules] using
      hnever (.auditScheduled job record.agent record.seedText replaced) (by simp)
  · rintro _ ⟨⟩
    exact h

theorem Traced.isSome_eq {job : JobId} {trail : List Event} {found : Option Record}
    (h : Traced job trail found) : found.isSome = trail.any (Event.schedules job) := by
  cases found with
  | none => simpa using h.none_iff.mp rfl
  | some record =>
      obtain ⟨earlier, replaced, later, rfl, -, -⟩ := h.told record rfl
      simp [Event.schedules]

/-- An audit without an outcome may be given one. -/
theorem Record.IsTold.clearSince {record : Record} {job : JobId} {trail : List Event}
    (h : record.IsTold job trail) (hopen : record.completed = false) :
    ClearSince (Event.schedules job) (Event.concludes job) trail := by
  obtain ⟨earlier, replaced, later, rfl, hlater, houtcome⟩ := h
  rw [if_neg (by simp [hopen])] at houtcome
  refine ⟨earlier, _, later, rfl, by simp [Event.schedules], ?_⟩
  intro event hevent
  refine ⟨hlater event hevent, ?_⟩
  simpa using List.filter_eq_nil_iff.mp houtcome.1 event hevent

theorem not_schedules_concat {job : JobId} {events : List Event} {event : Event}
    (h : ∀ other ∈ events, other.schedules job = false) (hevent : event.schedules job = false) :
    ∀ other ∈ events ++ [event], other.schedules job = false := by
  intro other hother
  rcases List.mem_append.mp hother with hother | hother
  · exact h other hother
  · obtain rfl := List.mem_singleton.mp hother
    exact hevent

theorem Record.IsTold.concat {record : Record} {job : JobId} {trail : List Event}
    (h : record.IsTold job trail) {event : Event} (hschedules : event.schedules job = false)
    (hconcludes : event.concludes job = false) : record.IsTold job (trail ++ [event]) := by
  obtain ⟨earlier, replaced, later, rfl, hlater, houtcome⟩ := h
  refine ⟨earlier, replaced, later ++ [event], by simp, not_schedules_concat hlater hschedules, ?_⟩
  have hfilter : (later ++ [event]).filter (Event.concludes job) =
      later.filter (Event.concludes job) := by
    simp [List.filter_append, hconcludes]
  rwa [hfilter]

theorem Traced.concat {job : JobId} {trail : List Event} {found : Option Record}
    (h : Traced job trail found) {event : Event} (hschedules : event.schedules job = false)
    (hconcludes : event.concludes job = false) : Traced job (trail ++ [event]) found := by
  cases found with
  | none => exact traced_none (not_schedules_concat (h.none_iff.mp rfl) hschedules)
  | some record => exact traced_some ((h.told record rfl).concat hschedules hconcludes)

theorem isTold_scheduled (job : JobId) (trail : List Event) {record : Record}
    (hopen : record.completed = false) (hpassed : record.passed = false) (replaced : Bool) :
    record.IsTold job
      (trail ++ [.auditScheduled job record.agent record.seedText replaced]) := by
  refine ⟨trail, replaced, [], rfl, by simp, ?_⟩
  simp [hopen, hpassed]

theorem Record.IsTold.recorded {record : Record} {job : JobId} {trail : List Event}
    (h : record.IsTold job trail) (hopen : record.completed = false) (auditor : Address)
    (passed : Bool) (details : String) :
    IsTold { record with completed := true, passed } job
      (trail ++ [.auditRecorded job auditor passed details]) := by
  obtain ⟨earlier, replaced, later, rfl, hlater, houtcome⟩ := h
  rw [if_neg (by simp [hopen])] at houtcome
  refine ⟨earlier, replaced, later ++ [.auditRecorded job auditor passed details], ?_,
    not_schedules_concat hlater rfl, auditor, details, ?_⟩
  · simp [seedText]
  · simp [List.filter_append, houtcome.1, Event.concludes]

theorem Stats.Tallied.concat {stats later : Stats} {trail : List Event} {event : Event}
    (h : stats.Tallied trail)
    (hscheduled : later.scheduled = stats.scheduled + event.isScheduling.toNat)
    (hreplaced : later.replaced = stats.replaced + event.isReplacement.toNat)
    (hcompleted : later.completed = stats.completed + event.isOutcome.toNat)
    (hpassed : later.passed = stats.passed + event.isPass.toNat)
    (hfailed : later.failed = stats.failed + event.isFailure.toNat)
    (hpenalties : later.penaltiesApplied = stats.penaltiesApplied + event.isPenalty.toNat) :
    later.Tallied (trail ++ [event]) := by
  constructor
  case scheduled => rw [hscheduled, h.scheduled, countP_concat]
  case replaced => rw [hreplaced, h.replaced, countP_concat]
  case completed => rw [hcompleted, h.completed, countP_concat]
  case passed => rw [hpassed, h.passed, countP_concat]
  case failed => rw [hfailed, h.failed, countP_concat]
  case penaltiesApplied => rw [hpenalties, h.penaltiesApplied, countP_concat]

/-! ## Events aside -/

theorem fits_of_isAside {event : Event} (h : event.isAside = true) (before : List Event) :
    Fits before event := by
  cases event <;> first | exact trivial | cases h

theorem Traced.aside {job : JobId} {trail : List Event} {found : Option Record}
    (h : Traced job trail found) {event : Event} (haside : event.isAside = true) :
    Traced job (trail ++ [event]) found := by
  apply h.concat
  · cases event <;> first | rfl | cases haside
  · cases event <;> first | rfl | cases haside

theorem Stats.Tallied.aside {stats : Stats} {trail : List Event} (h : stats.Tallied trail)
    {event : Event} (haside : event.isAside = true) : stats.Tallied (trail ++ [event]) := by
  cases event <;> first | exact h.concat rfl rfl rfl rfl rfl rfl | cases haside

theorem isAside_of_amendment {command : Command} {change : Scheduler → Scheduler}
    {event : Scheduler → Event} (h : command.amendment = some (change, event)) (s : Scheduler) :
    (event s).isAside = true := by
  cases command <;> cases h <;> rfl

/-! ## One step -/

namespace Scheduler

theorem Recounted.scheduled {s : Scheduler} {trail : List Event} (h : s.Recounted trail)
    (job : JobId) {record : Record} (hopen : record.completed = false)
    (hpassed : record.passed = false) :
    (s.scheduled job record).Recounted
      (trail ++ [.auditScheduled job record.agent record.seedText (s.audit job).isSome]) := by
  constructor
  case orderly => exact orderly_concat.mpr ⟨h.orderly, (h.traced job).isSome_eq⟩
  case traced =>
    intro other
    rw [audit_scheduled]
    by_cases hjob : job = other
    · subst hjob
      rw [if_pos rfl]
      exact traced_some (isTold_scheduled job trail hopen hpassed _)
    · rw [if_neg hjob]
      exact (h.traced other).concat (by simp [Event.schedules, hjob]) rfl
  case tallied =>
    apply h.tallied.concat <;> simp [stats_scheduled]

/-- The outcome is told first, before anything of a penalty. -/
theorem Recounted.outcome {s : Scheduler} {trail : List Event} (h : s.Recounted trail)
    {caller : Address} {job : JobId} {found : Record}
    (hopen : s.openAudit caller job = .ok found) (passed : Bool) (details : String) :
    (s.recorded job found passed false).Recounted
      (trail ++ [.auditRecorded job caller passed details]) := by
  obtain ⟨-, -, haudit, hcompleted⟩ := openAudit_eq_ok.mp hopen
  have htold : found.IsTold job trail := (h.traced job).told found haudit
  constructor
  case orderly => exact orderly_concat.mpr ⟨h.orderly, htold.clearSince hcompleted⟩
  case traced =>
    intro other
    rw [audit_recorded]
    by_cases hother : job = other
    · subst hother
      rw [if_pos rfl]
      exact traced_some (htold.recorded hcompleted caller passed details)
    · rw [if_neg hother]
      exact (h.traced other).concat rfl (by simp [Event.concludes, hother])
  case tallied =>
    apply h.tallied.concat <;> simp [stats_recorded]

/-- A penalty is told right after the outcome. -/
theorem Recounted.penalty {s : Scheduler} {trail : List Event} {caller : Address} {job : JobId}
    {found : Record} {details : String}
    (h : (s.recorded job found false false).Recounted
      (trail ++ [.auditRecorded job caller false details])) (amount : Amount) :
    (s.recorded job found false true).Recounted
      (trail ++ [.auditRecorded job caller false details] ++
        [.agentPenalized job found.agent amount]) := by
  have haudit :
      (s.recorded job found false false).audit = (s.recorded job found false true).audit :=
    rfl
  constructor
  case orderly =>
    refine orderly_concat.mpr ⟨h.orderly, ⟨caller, details, by simp⟩, ?_⟩
    obtain ⟨earlier, replaced, later, htrail, hlater, -⟩ :=
      (h.traced job).told _ (by rw [audit_recorded, if_pos rfl])
    exact ⟨earlier, _, replaced, later, htrail, hlater⟩
  case traced =>
    intro other
    rw [← haudit]
    exact (h.traced other).concat rfl rfl
  case tallied =>
    apply h.tallied.concat <;> simp [stats_recorded]

theorem passed_of_penaltyFor {s : Scheduler} {record : Record} {passed : Bool}
    {penalty : Address × Amount} (h : s.penaltyFor record passed = some penalty) :
    passed = false := by
  rw [penaltyFor_eq] at h
  split at h
  · next hdue => exact hdue.1
  · cases h

theorem Recounted.recorded {s : Scheduler} {trail : List Event} (h : s.Recounted trail)
    {caller : Address} {job : JobId} {found : Record}
    (hopen : s.openAudit caller job = .ok found) (passed : Bool) (details : String) :
    (s.recorded job found passed (s.penaltyFor found passed).isSome).Recounted
      (trail ++ outcomeEvents caller job passed details (s.penaltyFor found passed)) := by
  have houtcome := h.outcome hopen passed details
  cases hpenalty : s.penaltyFor found passed with
  | none => exact houtcome
  | some penalty =>
      obtain ⟨agent, amount⟩ := penalty
      obtain rfl := agent_of_penaltyFor hpenalty
      obtain rfl := passed_of_penaltyFor hpenalty
      simpa [outcomeEvents] using houtcome.penalty amount

/-- What a step tells goes on with every trail that told of the scheduler before it. -/
theorem recounted_step {env : Environment β} {caller : Address} {command : Command}
    {answer : Except Error Answer} {before after : Site Scheduler β}
    (hstep : Step env caller before command answer after) :
    ∃ new, after.events = before.events ++ new ∧ (∀ event ∈ new, event.subsystem = .audit) ∧
      ∀ trail, before.state.Recounted trail → after.state.Recounted (trail ++ new) := by
  obtain ⟨new, hnew, hsubsystem⟩ := hstep.subsystem
  refine ⟨new, hnew, hsubsystem, ?_⟩
  intro trail h
  cases hstep with
  | refused _ cause =>
      obtain rfl := List.self_eq_append_right.mp hnew
      simpa using h
  | ignored _ _ _ =>
      obtain rfl := List.self_eq_append_right.mp hnew
      simpa using h
  | passed _ _ _ _ _ =>
      obtain rfl := List.self_eq_append_right.mp hnew
      rw [List.append_nil]
      obtain ⟨horderly, htraced, htallied⟩ := h
      exact ⟨horderly, htraced, ⟨htallied.scheduled, htallied.replaced, htallied.completed,
        htallied.passed, htallied.failed, htallied.penaltiesApplied⟩⟩
  | amended hcommand _ _ =>
      obtain rfl := List.append_cancel_left hnew
      obtain ⟨hrecords, hstats⟩ := keeps_of_amendment hcommand before.state
      have haside := isAside_of_amendment hcommand before.state
      constructor
      case orderly => exact orderly_concat.mpr ⟨h.orderly, fits_of_isAside haside trail⟩
      case traced =>
        intro job
        rw [audit, hrecords]
        exact (h.traced job).aside haside
      case tallied =>
        rw [hstats]
        exact h.tallied.aside haside
  | scheduled _ _ _ _ _ hrecord =>
      obtain rfl := List.append_cancel_left hnew
      subst hrecord
      exact h.scheduled _ rfl rfl
  | recorded hopen _ =>
      obtain rfl := List.append_cancel_left hnew
      exact h.recorded hopen _ _

end Scheduler

/-! ## Runs -/

/-- What may come into a log that others share: a call to the scheduler, or an event that is not
about audits. -/
inductive Turn (β : Type) where
  | call (made : Call β)
  | elsewhere (event : Event) (h : event.subsystem ≠ .audit)

/-- What a turn does. -/
def Turn.perform : Turn β → Operation Scheduler β Error Answer
  | .call made => made.perform
  | .elsewhere event _ => settle (emit [event])

/-- The events about audits. -/
def auditTrail (events : List Event) : List Event :=
  events.filter fun event => event.subsystem = .audit

theorem auditTrail_append {events new : List Event}
    (h : ∀ event ∈ new, event.subsystem = .audit) :
    auditTrail (events ++ new) = auditTrail events ++ new := by
  have hnew : new.filter (fun event => event.subsystem = .audit) = new := by
    rw [List.filter_eq_self]
    intro event hevent
    exact decide_eq_true (h event hevent)
  rw [auditTrail, List.filter_append, hnew, auditTrail]

theorem Scheduler.recounted_make {authority : Address} {settings : Settings}
    {sinkConnected : Bool} {s : Scheduler}
    (h : make authority settings sinkConnected = .ok s) : s.Recounted [] := by
  obtain ⟨hrecords, hstats⟩ := blank_of_make h
  constructor
  case orderly => exact orderly_nil Fits
  case traced =>
    intro job
    rw [audit, hrecords, Table.get?_empty]
    exact traced_none (by simp)
  case tallied =>
    rw [hstats]
    exact ⟨rfl, rfl, rfl, rfl, rfl, rfl⟩

theorem recounted_perform {turn : Turn β} {before : Site Scheduler β}
    (h : before.state.Recounted (auditTrail before.events)) :
    (turn.perform.run before).2.state.Recounted
      (auditTrail (turn.perform.run before).2.events) := by
  cases turn with
  | call made =>
      obtain ⟨new, hnew, hsubsystem, hrecounted⟩ := Scheduler.recounted_step
        (perform_step made.environment made.caller made.command before)
      rw [Turn.perform, Call.perform, hnew, auditTrail_append hsubsystem]
      exact hrecounted _ h
  | elsewhere event hevent =>
      simpa [Turn.perform, settle, auditTrail, hevent] using h

/-- Whatever is done with a scheduler that was made, whatever it works with at each time and
whatever others write into the log: the events about audits follow the rule of the trail, so that a
job is given at most one outcome for each time that it was scheduled. They tell of the audit of
every job, and they are as many as the counts say. -/
theorem trail_play {authority : Address} {settings : Settings} {sinkConnected : Bool}
    {s : Scheduler} (h : Scheduler.make authority settings sinkConnected = .ok s) (book : β)
    (turns : List (Turn β)) :
    let site := (Site.start s book).play Turn.perform turns
    let trail := auditTrail site.events
    Orderly Fits trail ∧
      (∀ job before between after, trail = before ++ between ++ after →
        (∀ event ∈ between, event.schedules job = false) →
          between.countP (Event.concludes job) ≤ 1) ∧
      (∀ job, Traced job trail (site.state.audit job)) ∧
      site.state.stats.Tallied trail := by
  intro site trail
  have hrecounted : site.state.Recounted trail :=
    Site.play_induction (P := fun site : Site Scheduler β =>
        site.state.Recounted (auditTrail site.events))
      (Scheduler.recounted_make h) fun _ _ _ => recounted_perform
  refine ⟨hrecounted.orderly, ?_, hrecounted.traced, hrecounted.tallied⟩
  intro job before between after hsplit hbetween
  refine countP_le_one_of_orderly (hrecounted.orderly.mono ?_) hsplit hbetween
  intro earlier event hfits hconcludes
  cases event with
  | auditRecorded recorded auditor passed details =>
      simp only [Event.concludes, decide_eq_true_eq] at hconcludes
      subst hconcludes
      exact hfits
  | _ => cases hconcludes

/-- A bad outcome is recorded when the penalty sink is back, the job is scheduled again, and after
the policy was changed its report is refused and a good outcome is recorded. In between the bounds
of the temperature move. -/
theorem trail_play_rescheduled :
    let holder := Address.filled 0xA1
    let settings : Settings := ⟨holder, 10000, Amount.ofNat 5, [holder], .lastWriteWins⟩
    let s : Scheduler := ⟨⟨holder⟩, holder, [holder], 10000, Amount.ofNat 5, true, .lastWriteWins,
      false, Table.empty, Stats.zero⟩
    let working : Environment Unit :=
      ⟨constantSeed Word.zero, ⟨Word.zero, 0⟩, fun _ _ _ => .ok ()⟩
    let broken : Environment Unit :=
      { working with sink := fun _ _ _ => .error (.unavailable "offline") }
    let job := JobId.ofNat 7
    let finalize : Command := .finalize job (Address.filled 0xAB) true Word.zero
    let turns : List (Turn Unit) := [
      .call ⟨working, holder, finalize⟩,
      .call ⟨broken, holder, .record job false ""⟩,
      .call ⟨working, holder, .record job false ""⟩,
      .elsewhere (.boundsUpdated 1 10) (by decide),
      .call ⟨working, holder, finalize⟩,
      .call ⟨working, holder, .setPolicy .rejectExisting⟩,
      .call ⟨working, holder, finalize⟩,
      .call ⟨working, holder, .record job true ""⟩]
    let site := (Site.start s ()).play Turn.perform turns
    let trail := auditTrail site.events
    Scheduler.make holder settings true = .ok s ∧ site.events.length = 7 ∧ trail.length = 6 ∧
      site.state.stats = ⟨2, 2, 1, 2, 1, 1, 1, 0⟩ ∧ site.state.stats.Tallied trail ∧
      Traced job trail (site.state.audit job) := by
  intro holder settings s working broken job finalize turns site trail
  have hmake : Scheduler.make holder settings true = .ok s := rfl
  have htraced : Traced job trail (site.state.audit job) := by
    with_reducible exact (trail_play hmake () turns).2.2.1 job
  have htallied : site.state.stats.Tallied trail := by
    with_reducible exact (trail_play hmake () turns).2.2.2
  exact ⟨hmake, by decide +kernel, by decide +kernel, by decide +kernel, htallied, htraced⟩

end Audit

end Integrity
