import Integrity.Proofs.Audit.Counts
import Integrity.Proofs.Audit.Remainder

/-! # How reports of finished jobs are decided

The checks of a report come in a fixed order, and the first that applies decides. A job is selected
when its seed, read as a number, leaves a small enough remainder; so behind every audit there is a
report that was selected, at a probability that its seed is below. -/

namespace Integrity.Audit

open Operation

variable {β : Type}

/-! ## Reports -/

/-- What a notifier reports of a finished job. -/
structure Report where
  job : JobId
  agent : Address
  success : Bool
  result : Digest

/-- What becomes of a report. -/
inductive Verdict where
  | refused (cause : Error)
  | ignored
  | passed
  | selected
deriving DecidableEq

namespace Report

variable (report : Report) (env : Environment β)

def command : Command :=
  .finalize report.job report.agent report.success report.result

def seed : Digest :=
  env.seeds ⟨report.job, report.agent, report.result⟩ env.chain

/-- The audit of the job, if it is selected. -/
def record : Record :=
  ⟨report.agent, report.result, report.seed env, env.chain.timestamp, false, false⟩

/-- The first ground that applies decides. -/
def verdict (caller : Address) (s : Scheduler) : Verdict :=
  if s.paused = true then .refused .paused
  else if s.notifier = Address.null ∨ s.notifier ≠ caller then .refused (.unauthorized caller)
  else if report.success = false ∨ report.agent = Address.null ∨ s.probability = 0 then .ignored
  else if (s.audit report.job).isSome ∧ s.policy = .rejectExisting then
    .refused (.alreadyScheduled report.job)
  else if (report.seed env).toNat % 10000 < s.probability.toNat then .selected
  else .passed

end Report

/-- What the selection of a job does. -/
structure Selects (report : Report) (record : Record) (before after : Site Scheduler β) : Prop where
  audit : ∀ job, after.state.audit job =
    if job = report.job then some record else before.state.audit job
  stats : after.state.stats =
    { before.state.stats with
      evaluated := before.state.stats.evaluated + 1
      scheduled := before.state.stats.scheduled + 1
      replaced := before.state.stats.replaced + (before.state.audit report.job).isSome.toNat
      pending := before.state.stats.pending - (before.state.awaits report.job).toNat + 1 }
  setup : after.state =
    { before.state with records := after.state.records, stats := after.state.stats }
  outside : after.outside = before.outside
  events : after.events = before.events ++
    [.auditScheduled report.job record.agent (String.ofList (Hex.encode record.seed.bytes))
      (before.state.audit report.job).isSome]
  readings : after.readings = before.readings ++ [.auditScheduled]

/-- How a report is answered, and where it leaves the site, after each verdict. -/
inductive Carried (report : Report) (env : Environment β) (before : Site Scheduler β) :
    Verdict → Except Error Answer → Site Scheduler β → Prop
  | refused (cause : Error) : Carried report env before (.refused cause) (.error cause) before
  | ignored : Carried report env before .ignored (.ok none) before
  | passed {stats : Stats}
      (hstats : stats =
        { before.state.stats with evaluated := before.state.stats.evaluated + 1 }) :
      Carried report env before .passed (.ok none)
        { before with state := { before.state with stats } }
  | selected {after : Site Scheduler β} (h : Selects report (report.record env) before after) :
      Carried report env before .selected (.ok (some (report.record env))) after

theorem selects_afterScheduling (report : Report) (record : Record) (site : Site Scheduler β) :
    Selects report record site (Scheduler.afterScheduling site report.job record) := by
  constructor
  case audit =>
    intro job
    rw [Scheduler.afterScheduling, Scheduler.audit_scheduled]
    exact if_congr eq_comm rfl rfl
  case stats => exact Scheduler.stats_scheduled _ _ _
  case setup => rfl
  case outside => rfl
  case events => rfl
  case readings => rfl

theorem idle_iff {s : Scheduler} {agent : Address} {success : Bool} :
    s.Idle agent success ↔ success = false ∨ agent = Address.null ∨ s.probability = 0 := by
  simp [Scheduler.Idle, Address.isNull]

theorem carried_finalize (report : Report) (env : Environment β) (caller : Address)
    (site : Site Scheduler β) :
    Carried report env site (report.verdict env caller site.state)
      ((Scheduler.perform env caller report.command).run site).1
      ((Scheduler.perform env caller report.command).run site).2 := by
  rw [Report.command, Scheduler.perform, Scheduler.run_finalize, Report.verdict, Report.seed,
    Scheduler.ensureRunning, Scheduler.ensureNotifier]
  by_cases hpaused : site.state.paused = true
  · simp only [if_pos hpaused]
    exact .refused _
  by_cases hnotifier : site.state.notifier = Address.null ∨ site.state.notifier ≠ caller
  · have hrefused : (site.state.notifier.isNull || site.state.notifier != caller) = true := by
      simpa [Address.isNull] using hnotifier
    simp only [if_neg hpaused, if_pos hnotifier, if_pos hrefused]
    exact .refused _
  have hadmitted : ¬(site.state.notifier.isNull || site.state.notifier != caller) = true := by
    simpa [Address.isNull] using hnotifier
  simp only [if_neg hpaused, if_neg hnotifier, if_neg hadmitted, idle_iff]
  by_cases hidle :
      report.success = false ∨ report.agent = Address.null ∨ site.state.probability = 0
  · simp only [if_pos hidle]
    exact .ignored
  by_cases htaken :
      (site.state.audit report.job).isSome ∧ site.state.policy = .rejectExisting
  · simp only [if_neg hidle, if_pos htaken]
    exact .refused _
  simp only [if_neg hidle, if_neg htaken, isSelected_iff]
  by_cases hseed : (env.seeds ⟨report.job, report.agent, report.result⟩ env.chain).toNat % 10000 <
      site.state.probability.toNat
  · simp only [if_pos hseed]
    exact .selected (selects_afterScheduling report (report.record env) site)
  · simp only [if_neg hseed]
    exact .passed rfl

/-! ## Behind every audit -/

/-- Whether an operation that was answered scheduled an audit for a job. -/
def schedules (job : JobId) : Command → Except Error Answer → Bool
  | .finalize reported _ _ _, .ok (some _) => reported = job
  | _, _ => false

def Call.schedules (job : JobId) (before : Site Scheduler β) (call : Call β) : Bool :=
  Audit.schedules job call.command (call.perform.run before).1

/-- An audit without its outcome. -/
def Record.fresh (record : Record) : Record :=
  { record with completed := false, passed := false }

/-- A call is the report on which a job was selected, and this is the job's audit since. -/
structure Warrants (report : Report) (before : Site Scheduler β) (call : Call β) (record : Record) :
    Prop where
  command : call.command = report.command
  verdict : report.verdict call.environment call.caller before.state = .selected
  fresh : record.fresh = report.record call.environment
  seed_lt : record.seed.toNat % 10000 < before.state.probability.toNat

/-- The last report on which the job was selected warrants its audit. -/
def Justified (entries : List (Site Scheduler β × Call β)) (job : JobId) (record : Record) : Prop :=
  ∃ report before entry after, report.job = job ∧ entries = before ++ entry :: after ∧
    Warrants report entry.1 entry.2 record ∧ ∀ later ∈ after, later.2.schedules job later.1 = false

theorem seed_lt_of_verdict_eq {report : Report} {env : Environment β} {caller : Address}
    {s : Scheduler} (h : report.verdict env caller s = .selected) :
    (report.seed env).toNat % 10000 < s.probability.toNat := by
  simp only [Report.verdict] at h
  split_ifs at h with _ _ _ _ hseed
  exact hseed

theorem Carried.selected_of_schedules {report : Report} {env : Environment β} {verdict : Verdict}
    {answer : Except Error Answer} {before after : Site Scheduler β} {job : JobId}
    (hcarried : Carried report env before verdict answer after)
    (h : schedules job report.command answer = true) :
    report.job = job ∧ verdict = .selected ∧
      after.state.audit job = some (report.record env) := by
  cases hcarried with
  | selected hselects =>
      obtain rfl : report.job = job := of_decide_eq_true h
      refine ⟨rfl, rfl, ?_⟩
      rw [hselects.audit, if_pos rfl]
  | _ => cases h

/-- An operation on which a job is selected is a report of it, which warrants the new audit. -/
theorem warrants_of_schedules {job : JobId} {before : Site Scheduler β} {call : Call β}
    (h : call.schedules job before = true) :
    ∃ report record, report.job = job ∧
      (call.perform.run before).2.state.audit job = some record ∧
      Warrants report before call record := by
  obtain ⟨env, caller, command⟩ := call
  cases command with
  | finalize reported agent success result =>
      let report : Report := ⟨reported, agent, success, result⟩
      obtain ⟨hjob, hverdict, haudit⟩ :=
        (carried_finalize report env caller before).selected_of_schedules h
      exact ⟨report, report.record env, hjob, haudit, rfl, hverdict, rfl,
        seed_lt_of_verdict_eq hverdict⟩
  | _ => cases h

/-- An operation on which a job is not selected keeps its audit, or gives it its outcome. -/
theorem fresh_audit_of_not_schedules {env : Environment β} {caller : Address} {command : Command}
    {answer : Except Error Answer} {before after : Site Scheduler β} {job : JobId}
    (hstep : Step env caller before command answer after)
    (h : schedules job command answer = false) :
    (after.state.audit job).map Record.fresh = (before.state.audit job).map Record.fresh := by
  cases hstep with
  | refused _ cause => rfl
  | amended hcommand _ _ =>
      rw [Scheduler.audit, (keeps_of_amendment hcommand before.state).1, Scheduler.audit]
  | ignored _ _ _ => rfl
  | passed _ _ _ _ _ => rfl
  | scheduled _ _ _ _ _ _ =>
      have hother := of_decide_eq_false h
      rw [Scheduler.afterScheduling, Scheduler.audit_scheduled, if_neg hother]
  | @recorded recorded _ _ _ _ hopen _ =>
      rw [Scheduler.afterRecording, Scheduler.audit_recorded]
      by_cases hrecorded : recorded = job
      · obtain ⟨-, -, haudit, -⟩ := Scheduler.openAudit_eq_ok.mp hopen
        subst hrecorded
        rw [if_pos rfl, haudit]
        rfl
      · rw [if_neg hrecorded]

theorem Warrants.of_fresh_eq {report : Report} {before : Site Scheduler β} {call : Call β}
    {record later : Record} (h : Warrants report before call record)
    (hfresh : later.fresh = record.fresh) : Warrants report before call later := by
  refine ⟨h.command, h.verdict, hfresh.trans h.fresh, ?_⟩
  change later.fresh.seed.toNat % 10000 < _
  rw [hfresh]
  exact h.seed_lt

theorem Justified.concat {entries : List (Site Scheduler β × Call β)} {job : JobId}
    {record later : Record} (h : Justified entries job record) (hfresh : later.fresh = record.fresh)
    {last : Site Scheduler β × Call β} (hlast : last.2.schedules job last.1 = false) :
    Justified (entries ++ [last]) job later := by
  obtain ⟨report, before, entry, after, hjob, hentries, hwarrants, hafter⟩ := h
  refine ⟨report, before, entry, after ++ [last], hjob, ?_, hwarrants.of_fresh_eq hfresh, ?_⟩
  · rw [hentries, List.append_assoc, List.cons_append]
  · intro entry hentry
    rcases List.mem_append.mp hentry with hentry | hentry
    · exact hafter entry hentry
    · obtain rfl := List.mem_singleton.mp hentry
      exact hlast

theorem justified_play {start : Site Scheduler β} (hstart : ∀ job, start.state.audit job = none)
    (calls : List (Call β)) {job : JobId} {record : Record}
    (h : (start.play Call.perform calls).state.audit job = some record) :
    Justified (start.history Call.perform calls) job record := by
  induction calls using List.reverseRecOn generalizing record with
  | nil =>
      rw [Site.play_nil, hstart] at h
      cases h
  | append_singleton calls call ih =>
      rw [Site.play_concat] at h
      rw [Site.history_concat]
      cases hschedules : call.schedules job (start.play Call.perform calls) with
      | true =>
          obtain ⟨report, new, hjob, hnew, hwarrants⟩ := warrants_of_schedules hschedules
          obtain rfl : new = record := Option.some.inj (hnew.symm.trans h)
          exact ⟨report, _, _, [], hjob, rfl, hwarrants, by simp⟩
      | false =>
          have hfresh := fresh_audit_of_not_schedules
            (perform_step call.environment call.caller call.command (start.play Call.perform calls))
            hschedules
          rw [Call.perform] at h
          rw [h, Option.map_some, eq_comm, Option.map_eq_some_iff] at hfresh
          obtain ⟨earlier, hearlier, hfresh⟩ := hfresh
          exact (ih hearlier).concat hfresh.symm hschedules

/-- Whatever anybody has done with a scheduler that was made: a report is decided on the first
ground that applies, and carried out as decided. Every audit, with an outcome or not, goes back to a
report on which its job was selected, at a probability that its seed is below. -/
theorem decisions_play {authority : Address} {settings : Settings} {sinkConnected : Bool}
    {s : Scheduler} (h : Scheduler.make authority settings sinkConnected = .ok s) (book : β)
    (calls : List (Call β)) :
    let start := Site.start s book
    let site := start.play Call.perform calls
    (∀ report env caller,
      let outcome := (Scheduler.perform env caller report.command).run site
      Carried report env site (report.verdict env caller site.state) outcome.1 outcome.2) ∧
      ∀ job record, site.state.audit job = some record →
        Justified (start.history Call.perform calls) job record := by
  intro start site
  refine ⟨fun report env caller => carried_finalize report env caller site, ?_⟩
  intro job record haudit
  refine justified_play ?_ calls haudit
  intro job
  change s.records.get? job = none
  rw [(Scheduler.blank_of_make h).1, Table.get?_empty]

/-- A job is selected twice, and the second audit fails. The probability is lowered below its seed,
and reports that come then are passed over, or refused. -/
theorem decisions_play_lowered :
    let holder := Address.filled 0xA1
    let agent := Address.filled 0xAB
    let settings : Settings := ⟨holder, 500, Amount.ofNat 5, [holder], .lastWriteWins⟩
    let s : Scheduler := ⟨⟨holder⟩, holder, [holder], 500, Amount.ofNat 5, true, .lastWriteWins,
      false, Table.empty, Stats.zero⟩
    let env : Environment Unit :=
      ⟨fun input _ => input.result, ⟨Word.zero, 60⟩, fun _ _ _ => .ok ()⟩
    let job := JobId.ofNat 7
    let first : Report := ⟨job, agent, true, Word.ofNat 0⟩
    let second : Report := ⟨job, agent, true, Word.ofNat 70499⟩
    let calls : List (Call Unit) := [
      ⟨env, holder, first.command⟩,
      ⟨env, holder, second.command⟩,
      ⟨env, holder, .record job false ""⟩,
      ⟨env, holder, .setProbability 499⟩,
      ⟨env, holder, second.command⟩,
      ⟨env, holder, .setPolicy .rejectExisting⟩]
    let start := Site.start s ()
    let site := start.play Call.perform calls
    let record : Record := ⟨agent, Word.ofNat 70499, Word.ofNat 70499, 60, true, false⟩
    let outcome := (Scheduler.perform env holder first.command).run site
    Scheduler.make holder settings true = .ok s ∧ site.state.probability = 499 ∧
      site.state.stats.evaluated = 3 ∧ site.state.audit job = some record ∧
      first.verdict env holder site.state = .refused (.alreadyScheduled job) ∧
      Carried first env site (.refused (.alreadyScheduled job)) outcome.1 outcome.2 ∧
      Justified (start.history Call.perform calls) job record := by
  intro holder agent settings s env job first second calls start site record outcome
  have hmake : Scheduler.make holder settings true = .ok s := rfl
  have haudit : site.state.audit job = some record := by decide +kernel
  have hverdict : first.verdict env holder site.state = .refused (.alreadyScheduled job) := by
    decide +kernel
  have hcarried :
      Carried first env site (first.verdict env holder site.state) outcome.1 outcome.2 := by
    with_reducible exact (decisions_play hmake () calls).1 first env holder
  rw [hverdict] at hcarried
  refine ⟨hmake, by decide +kernel, by decide +kernel, haudit, hverdict, hcarried, ?_⟩
  with_reducible exact (decisions_play hmake () calls).2 job record haudit

end Integrity.Audit
