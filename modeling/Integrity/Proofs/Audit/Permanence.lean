import Integrity.Proofs.Audit.Penalties

/-! # What stays while repeats are refused

Two operations write audits: a report and an outcome. As long as the policy refuses the report of a
job that has an audit, a report only fills an empty place; and an outcome is only written over an
audit that has none. So an audit keeps what its agent committed to, and its first outcome is its
last. The penalty sink is only asked for a penalty on the way to an outcome, and what it takes is
told with the outcome; so a job is penalized at most once. -/

namespace Integrity.Audit

open Operation

variable {β : Type}

/-- The same audit later: its commitment is the same, and so is all of it once it has an outcome. -/
structure Record.Lasts (record later : Record) : Prop where
  agent : later.agent = record.agent
  result : later.result = record.result
  seed : later.seed = record.seed
  scheduledAt : later.scheduledAt = record.scheduledAt
  completed : record.completed = true → later = record

theorem Record.Lasts.refl (record : Record) : record.Lasts record :=
  ⟨rfl, rfl, rfl, rfl, fun _ => rfl⟩

theorem Record.Lasts.trans {first second third : Record} (h : first.Lasts second)
    (h' : second.Lasts third) : first.Lasts third := by
  refine ⟨h'.agent.trans h.agent, h'.result.trans h.result, h'.seed.trans h.seed,
    h'.scheduledAt.trans h.scheduledAt, ?_⟩
  intro hcompleted
  have hsecond := h.completed hcompleted
  subst hsecond
  exact h'.completed hcompleted

/-- Whether the audit of a job has an outcome. -/
def Scheduler.isCompleted (s : Scheduler) (job : JobId) : Bool :=
  (s.audit job).any Record.completed

/-- Whether an operation that was answered recorded an outcome for a job. -/
def concludes (job : JobId) : Command → Except Error Answer → Bool
  | .record recorded _ _, .ok _ => recorded = job
  | _, _ => false

@[simp]
theorem concludes_error (job : JobId) (command : Command) (cause : Error) :
    concludes job command (.error cause) = false := by
  cases command <;> rfl

/-- From one scheduler to another every audit lasts, none was replaced, and `outcomes` tells how
many outcomes each job was given. -/
structure Scheduler.Keeps (before after : Scheduler) (outcomes : JobId → Nat) : Prop where
  lasts : ∀ job record, before.audit job = some record →
    ∃ later, after.audit job = some later ∧ record.Lasts later
  outcomes : ∀ job, outcomes job + (before.isCompleted job).toNat = (after.isCompleted job).toNat
  replaced : after.stats.replaced = before.stats.replaced

namespace Scheduler

theorem Keeps.refl (s : Scheduler) : s.Keeps s fun _ => 0 := by
  refine ⟨?_, fun _ => Nat.zero_add _, rfl⟩
  intro job record haudit
  exact ⟨record, haudit, .refl record⟩

theorem Keeps.trans {first second third : Scheduler} {outcomes more : JobId → Nat}
    (h : first.Keeps second outcomes) (h' : second.Keeps third more) :
    first.Keeps third fun job => outcomes job + more job := by
  constructor
  case lasts =>
    intro job record haudit
    obtain ⟨middle, hmiddle, hlasts⟩ := h.lasts job record haudit
    obtain ⟨later, hlater, hlastsAgain⟩ := h'.lasts job middle hmiddle
    exact ⟨later, hlater, hlasts.trans hlastsAgain⟩
  case outcomes =>
    intro job
    have hfirst := h.outcomes job
    have hsecond := h'.outcomes job
    omega
  case replaced => exact h'.replaced.trans h.replaced

/-- What leaves the audits and the replacements alone keeps everything. -/
theorem keeps_of_eq {before after : Scheduler} (haudit : after.audit = before.audit)
    (hreplaced : after.stats.replaced = before.stats.replaced) : before.Keeps after fun _ => 0 := by
  refine ⟨?_, ?_, hreplaced⟩
  · intro job record hrecord
    rw [haudit]
    exact ⟨record, hrecord, .refl record⟩
  · intro job
    rw [isCompleted, isCompleted, haudit, Nat.zero_add]

/-- A job that has no audit is given one without an outcome. -/
theorem keeps_scheduled {s : Scheduler} {job : JobId} (hfree : s.audit job = none)
    {record : Record} (hopen : record.completed = false) :
    s.Keeps (s.scheduled job record) fun _ => 0 := by
  constructor
  case lasts =>
    intro other found hfound
    have hother : job ≠ other := by
      rintro rfl
      rw [hfree] at hfound
      cases hfound
    refine ⟨found, ?_, .refl found⟩
    rw [audit_scheduled, if_neg hother, hfound]
  case outcomes =>
    intro other
    rw [isCompleted, isCompleted, audit_scheduled]
    by_cases hother : job = other
    · subst hother
      simp [hfree, hopen]
    · simp [hother]
  case replaced => simp [stats_scheduled, hfree]

/-- An audit without an outcome is given one. -/
theorem keeps_recorded {s : Scheduler} {caller : Address} {job : JobId} {found : Record}
    (hopen : s.openAudit caller job = .ok found) (passed penalized : Bool) :
    s.Keeps (s.recorded job found passed penalized) fun other => (decide (job = other)).toNat := by
  obtain ⟨-, -, haudit, hcompleted⟩ := openAudit_eq_ok.mp hopen
  constructor
  case lasts =>
    intro other record hrecord
    by_cases hother : job = other
    · subst hother
      obtain rfl : found = record := Option.some.inj (haudit.symm.trans hrecord)
      refine ⟨{ found with completed := true, passed }, ?_, rfl, rfl, rfl, rfl, ?_⟩
      · rw [audit_recorded, if_pos rfl]
      · intro hagain
        rw [hcompleted] at hagain
        cases hagain
    · exact ⟨record, by rw [audit_recorded, if_neg hother, hrecord], .refl record⟩
  case outcomes =>
    intro other
    rw [isCompleted, isCompleted, audit_recorded]
    by_cases hother : job = other
    · subst hother
      simp [haudit, hcompleted]
    · simp [hother]
  case replaced => simp [stats_recorded]

/-- While repeats are refused, every step keeps the audits. -/
theorem keeps_of_step {env : Environment β} {caller : Address} {command : Command}
    {answer : Except Error Answer} {before after : Site Scheduler β}
    (h : Step env caller before command answer after)
    (hpolicy : before.state.policy = .rejectExisting) :
    before.state.Keeps after.state fun job => (concludes job command answer).toNat := by
  cases h with
  | refused _ cause => simpa using Keeps.refl before.state
  | amended hcommand _ _ =>
      obtain ⟨hrecords, hstats⟩ := keeps_of_amendment hcommand before.state
      have hnone : ∀ job, concludes job command (.ok none) = false := by
        cases command <;> first | exact fun _ => rfl | cases hcommand
      simp only [hnone, Bool.toNat_false]
      apply keeps_of_eq
      · funext job
        exact congrArg (Table.get? · job) hrecords
      · exact congrArg Stats.replaced hstats
  | ignored _ _ _ => exact Keeps.refl before.state
  | passed _ _ _ _ _ => exact keeps_of_eq rfl rfl
  | scheduled _ _ _ hfree _ hrecord =>
      subst hrecord
      apply keeps_scheduled
      · rw [hpolicy] at hfree
        simpa using hfree
      · rfl
  | recorded hopen _ => exact keeps_recorded hopen _ _

end Scheduler

/-! ## Penalties -/

/-- The penalty sink after it took some penalties, one after the other. -/
def Environment.charged (env : Environment β) (book : β) (penalties : List (Address × Amount)) :
    Except CollaboratorError β :=
  penalties.foldlM (fun book penalty => env.sink book penalty.1 penalty.2) book

/-- For one penalty or none the sink is asked once or not at all. -/
theorem Environment.charged_toList (env : Environment β) (book : β)
    (penalty : Option (Address × Amount)) :
    env.charged book penalty.toList = Scheduler.charge env.sink book penalty := by
  cases penalty with
  | none => rfl
  | some penalty =>
      rw [charged, Option.toList_some, List.foldlM_cons]
      exact bind_pure _

/-- From one site to another some events were told: each penalty among them was counted, and no job
has more of them than `outcomes` tells. -/
structure Penalizes (before after : Site Scheduler β) (told : List Event)
    (outcomes : JobId → Nat) : Prop where
  events : after.events = before.events ++ told
  counted : after.state.stats.penaltiesApplied =
    before.state.stats.penaltiesApplied + (told.filterMap Event.penalty?).length
  bounded : ∀ job, told.countP (Event.penalizes job) ≤ outcomes job

namespace Penalizes

variable {before middle after : Site Scheduler β} {told : List Event} {outcomes : JobId → Nat}

theorem refl (site : Site Scheduler β) (outcomes : JobId → Nat) :
    Penalizes site site [] outcomes :=
  ⟨(List.append_nil _).symm, rfl, fun _ => Nat.zero_le _⟩

theorem trans {more : List Event} {others : JobId → Nat}
    (h : Penalizes before middle told outcomes) (h' : Penalizes middle after more others) :
    Penalizes before after (told ++ more) fun job => outcomes job + others job := by
  constructor
  case events => rw [h'.events, h.events, List.append_assoc]
  case counted =>
    rw [h'.counted, h.counted, List.filterMap_append, List.length_append, Nat.add_assoc]
  case bounded =>
    intro job
    rw [List.countP_append]
    exact Nat.add_le_add (h.bounded job) (h'.bounded job)

theorem of_penalty?_eq_none {event : Event} (h : event.penalty? = none)
    (hevents : after.events = before.events ++ [event])
    (hcount : after.state.stats.penaltiesApplied = before.state.stats.penaltiesApplied) :
    Penalizes before after [event] outcomes := by
  have hnone (job : JobId) : event.penalizes job = false := by
    cases event with
    | agentPenalized => cases h
    | _ => rfl
  refine ⟨hevents, ?_, fun job => ?_⟩
  · rw [hcount, List.filterMap_cons_none h]
    rfl
  · rw [List.countP_singleton, hnone job]
    exact Nat.zero_le _

end Penalizes

theorem penalties_outcomeEvents (caller : Address) (job : JobId) (passed : Bool) (details : String)
    (penalty : Option (Address × Amount)) :
    (Scheduler.outcomeEvents caller job passed details penalty).filterMap Event.penalty? =
      penalty.toList := by
  cases penalty <;> rfl

/-- An outcome has at most one penalty, which is told and counted with it. -/
theorem penalizes_recorded {before : Site Scheduler β} {job : JobId} {found : Record}
    {passed : Bool} (book : β) (caller : Address) (details : String) :
    Penalizes before (Scheduler.afterRecording before book caller job found passed details)
      (Scheduler.outcomeEvents caller job passed details (before.state.penaltyFor found passed))
      fun other => (decide (job = other)).toNat := by
  refine ⟨rfl, ?_, fun other => ?_⟩
  · simp only [Scheduler.afterRecording, Scheduler.stats_recorded]
    cases before.state.penaltyFor found passed <;> rfl
  · cases before.state.penaltyFor found passed with
    | none => exact Nat.zero_le _
    | some penalty =>
        by_cases hjob : job = other <;> simp [Scheduler.outcomeEvents, Event.penalizes, hjob]

/-- The sink takes the penalties of the events that a step adds, and no others. -/
theorem Step.penalties {env : Environment β} {caller : Address} {command : Command}
    {answer : Except Error Answer} {before after : Site Scheduler β}
    (h : Step env caller before command answer after) :
    ∃ told, Penalizes before after told (fun job => (concludes job command answer).toNat) ∧
      env.charged before.outside (told.filterMap Event.penalty?) = .ok after.outside := by
  cases h with
  | refused _ cause => exact ⟨[], .refl _ _, rfl⟩
  | ignored _ _ _ => exact ⟨[], .refl _ _, rfl⟩
  | passed _ _ _ _ _ =>
      exact ⟨[], ⟨(List.append_nil _).symm, rfl, fun _ => Nat.zero_le _⟩, rfl⟩
  | @amended command change event hcommand _ _ =>
      have hsilent := (silent_of_amendment hcommand before.state).penalty?
      have hcount := congrArg Stats.penaltiesApplied (keeps_of_amendment hcommand before.state).2
      refine ⟨[event before.state], .of_penalty?_eq_none hsilent rfl hcount, ?_⟩
      rw [List.filterMap_cons_none hsilent]
      rfl
  | @scheduled job agent success result record _ _ _ _ _ _ =>
      have hcount : (before.state.scheduled job record).stats.penaltiesApplied =
          before.state.stats.penaltiesApplied := by
        rw [Scheduler.stats_scheduled]
      exact ⟨_, .of_penalty?_eq_none rfl rfl hcount, rfl⟩
  | @recorded job passed details found book _ hcharge =>
      refine ⟨_, penalizes_recorded book caller details, ?_⟩
      rw [penalties_outcomeEvents, Environment.charged_toList]
      exact hcharge

/-! ## Stretches of a run -/

/-- Whether a call records an outcome for a job. -/
def Call.concludes (job : JobId) (before : Site Scheduler β) (call : Call β) : Bool :=
  Audit.concludes job call.command (call.perform.run before).1

/-- The penalties that the sink takes while a call is carried out are those that the events of the
call tell of. -/
def Call.Settles (before : Site Scheduler β) (call : Call β) : Prop :=
  ∃ told, (call.perform.run before).2.events = before.events ++ told ∧
    call.environment.charged before.outside (told.filterMap Event.penalty?) =
      .ok (call.perform.run before).2.outside

theorem Call.settles (before : Site Scheduler β) (call : Call β) : call.Settles before := by
  obtain ⟨told, hpenalizes, hcharged⟩ :=
    (perform_step call.environment call.caller call.command before).penalties
  exact ⟨told, hpenalizes.events, hcharged⟩

theorem keeps_play {start : Site Scheduler β} {calls : List (Call β)}
    (hpolicy : ∀ entry ∈ start.history Call.perform calls,
      entry.1.state.policy = .rejectExisting) :
    start.state.Keeps (start.play Call.perform calls).state fun job =>
      (start.history Call.perform calls).countP
        fun (before, call) => call.concludes job before := by
  induction calls using List.reverseRecOn with
  | nil => exact Scheduler.Keeps.refl start.state
  | append_singleton calls call ih =>
      simp only [Site.history_concat, List.mem_append, List.mem_singleton] at hpolicy
      have hearlier := ih fun entry hentry => hpolicy entry (.inl hentry)
      have hstep := Scheduler.keeps_of_step
        (perform_step call.environment call.caller call.command (start.play Call.perform calls))
        (hpolicy _ (.inr rfl))
      simp only [Site.play_concat, Site.countP_history_concat]
      exact hearlier.trans hstep

/-- What the events of a stretch tell of penalties, with its outcomes. -/
theorem penalizes_play (start : Site Scheduler β) (calls : List (Call β)) :
    ∃ told, Penalizes start (start.play Call.perform calls) told fun job =>
      (start.history Call.perform calls).countP
        fun (before, call) => call.concludes job before := by
  induction calls using List.reverseRecOn with
  | nil => exact ⟨[], .refl start _⟩
  | append_singleton calls call ih =>
      obtain ⟨told, hearlier⟩ := ih
      obtain ⟨more, hlater, -⟩ := (perform_step call.environment call.caller call.command
        (start.play Call.perform calls)).penalties
      simp only [Site.play_concat, Site.countP_history_concat]
      exact ⟨told ++ more, hearlier.trans hlater⟩

/-- Take any stretch of any run during which repeats are refused. From every moment of it on, an
audit that is there stays, with the commitment that it has; once it has an outcome it never changes.
A job is given an outcome once when it has none at the start of the stretch and one at the end, and
otherwise never. The penalty sink takes, call by call, what the events of the call tell of and
nothing else; all penalties are counted, and a job is penalized no more often than it is given an
outcome. Nothing is replaced. -/
theorem permanence_play {start : Site Scheduler β} {calls : List (Call β)}
    (hpolicy : ∀ entry ∈ start.history Call.perform calls,
      entry.1.state.policy = .rejectExisting) :
    let entries := start.history Call.perform calls
    let site := start.play Call.perform calls
    (∀ earlier later, calls = earlier ++ later → ∀ job record,
        (start.play Call.perform earlier).state.audit job = some record →
          ∃ last, site.state.audit job = some last ∧ record.Lasts last) ∧
      (∀ job, entries.countP (fun (before, call) => call.concludes job before) +
        (start.state.isCompleted job).toNat = (site.state.isCompleted job).toNat) ∧
      (∀ entry ∈ entries, entry.2.Settles entry.1) ∧
      (∃ told, site.events = start.events ++ told ∧
        site.state.stats.penaltiesApplied =
          start.state.stats.penaltiesApplied + (told.filterMap Event.penalty?).length ∧
        ∀ job, told.countP (Event.penalizes job) + (start.state.isCompleted job).toNat ≤
          (site.state.isCompleted job).toNat) ∧
      site.state.stats.replaced = start.state.stats.replaced := by
  intro entries site
  have hkeeps := keeps_play hpolicy
  obtain ⟨told, hpenalizes⟩ := penalizes_play start calls
  refine ⟨?_, hkeeps.outcomes, fun entry _ => entry.2.settles entry.1,
    ⟨told, hpenalizes.events, hpenalizes.counted, fun job => ?_⟩, hkeeps.replaced⟩
  · intro earlier later hcalls job record haudit
    subst hcalls
    have hlater : ∀ entry ∈ (start.play Call.perform earlier).history Call.perform later,
        entry.1.state.policy = .rejectExisting := by
      intro entry hentry
      rw [Site.history_append] at hpolicy
      exact hpolicy entry (List.mem_append_right _ hentry)
    simp only [site, Site.play_append]
    exact (keeps_play hlater).lasts job record haudit
  · rw [← hkeeps.outcomes job]
    exact Nat.add_le_add_right (hpenalizes.bounded job) _

/-- The first outcome fails with the penalty sink, the second is recorded and costs the only
penalty, and a third and another report of the job are refused. The stretch ends when the policy is
changed. -/
theorem permanence_play_retried :
    let holder := Address.filled 0xA1
    let s : Scheduler := ⟨⟨holder⟩, holder, [holder], 10000, Amount.ofNat 5, true,
      .rejectExisting, false, Table.empty, Stats.zero⟩
    let working : Environment ℕ :=
      ⟨constantSeed Word.zero, ⟨Word.zero, 0⟩, fun taken _ _ => .ok (taken + 1)⟩
    let broken : Environment ℕ :=
      { working with sink := fun _ _ _ => .error (.unavailable "offline") }
    let job := JobId.ofNat 7
    let finalize : Command := .finalize job (Address.filled 0xAB) true Word.zero
    let calls : List (Call ℕ) := [
      ⟨working, holder, finalize⟩,
      ⟨broken, holder, .record job false ""⟩,
      ⟨working, holder, .pause⟩,
      ⟨working, holder, .unpause⟩,
      ⟨working, holder, .record job false ""⟩,
      ⟨working, holder, .record job false ""⟩,
      ⟨working, holder, finalize⟩,
      ⟨working, holder, .setPolicy .lastWriteWins⟩]
    let start := Site.start s 0
    let entries := start.history Call.perform calls
    let site := start.play Call.perform calls
    (∀ entry ∈ entries, entry.1.state.policy = .rejectExisting) ∧
      site.outside = 1 ∧ site.state.stats.penaltiesApplied = 1 ∧
      site.events.countP (Event.penalizes job) = 1 ∧
      (site.state.audit job).map Record.passed = some false ∧
      (∀ entry ∈ entries, entry.2.Settles entry.1) ∧
      entries.countP (fun (before, call) => call.concludes job before) +
        (start.state.isCompleted job).toNat = (site.state.isCompleted job).toNat := by
  intro holder s working broken job finalize calls start entries site
  have hpolicy : ∀ entry ∈ entries, entry.1.state.policy = .rejectExisting := by decide +kernel
  obtain ⟨houtcomes, hsettles⟩ : (∀ job,
      entries.countP (fun (before, call) => call.concludes job before) +
        (start.state.isCompleted job).toNat = (site.state.isCompleted job).toNat) ∧
      ∀ entry ∈ entries, entry.2.Settles entry.1 := by
    with_reducible exact ⟨(permanence_play hpolicy).2.1, (permanence_play hpolicy).2.2.1⟩
  exact ⟨hpolicy, by decide +kernel, by decide +kernel, by decide +kernel, by decide +kernel,
    hsettles, houtcomes job⟩

end Integrity.Audit
