import Integrity.Proofs.Audit.Step
import Integrity.Proofs.Operation.Run
import Mathlib.Data.List.Induction

/-! # The counts of the audit scheduler

The counts are kept beside the audits and never worked out from them. They agree with the audits
all the same: an audit is pending exactly while it has no outcome, and every audit that was ever
scheduled has its outcome, is pending, or was discarded before it had one. -/

namespace Integrity.Audit

open Operation

variable {β : Type}

namespace Scheduler

/-- The number of audits without an outcome. -/
def openAudits (s : Scheduler) : Nat :=
  s.records.values.countP fun record => !record.completed

/-- Whether a job has an audit without an outcome. -/
def awaits (s : Scheduler) (job : JobId) : Bool :=
  (s.audit job).any fun record => !record.completed

/-- Agreement of the counts with the audits, when `discarded` audits gave way to others before they
had an outcome. -/
structure Counted (s : Scheduler) (discarded : Nat) : Prop where
  pending : s.stats.pending = s.openAudits
  stored : s.records.size + s.stats.replaced = s.stats.scheduled
  outcomes : s.stats.completed = s.stats.passed + s.stats.failed
  penalties : s.stats.penaltiesApplied ≤ s.stats.failed
  accounted : s.stats.scheduled = s.stats.completed + s.stats.pending + discarded
  discarded_le : discarded ≤ s.stats.replaced
  scheduled_le : s.stats.scheduled ≤ s.stats.evaluated

theorem counted_make {authority : Address} {settings : Settings} {sinkConnected : Bool}
    {s : Scheduler} (h : make authority settings sinkConnected = .ok s) : s.Counted 0 := by
  obtain ⟨hrecords, hstats⟩ := blank_of_make h
  constructor <;> simp only [openAudits, hrecords, hstats] <;> decide

/-- An audit without an outcome is among the pending ones. -/
theorem Counted.pending_pos {s : Scheduler} {discarded : Nat} (h : s.Counted discarded)
    {job : JobId} (hjob : s.awaits job = true) : 0 < s.stats.pending := by
  obtain ⟨record, haudit, hopen⟩ := (Option.any_eq_true _ _).mp hjob
  rw [h.pending]
  exact Table.countP_values_pos haudit hopen

theorem awaits_of_openAudit {s : Scheduler} {caller : Address} {job : JobId} {record : Record}
    (h : s.openAudit caller job = .ok record) : s.awaits job = true := by
  obtain ⟨-, -, haudit, hopen⟩ := openAudit_eq_ok.mp h
  simp [awaits, haudit, hopen]

/-! ## What one step counts -/

theorem Counted.passed {s : Scheduler} {discarded : Nat} (h : s.Counted discarded) :
    s.evaluated.Counted discarded :=
  { h with scheduled_le := Nat.le_succ_of_le h.scheduled_le }

theorem openAudits_scheduled (s : Scheduler) (job : JobId) {record : Record}
    (hopen : record.completed = false) :
    (s.scheduled job record).openAudits + (s.awaits job).toNat = s.openAudits + 1 := by
  have h := Table.countP_values_insert (fun record => !record.completed) s.records job record
  simp only [hopen, Bool.not_false, Bool.toNat_true] at h
  exact h

theorem size_scheduled (s : Scheduler) (job : JobId) (record : Record) :
    (s.scheduled job record).records.size + (s.audit job).isSome.toNat = s.records.size + 1 :=
  Table.size_insert s.records job record

/-- An audit that takes the place of another counts as replacing it, and is pending in its stead if
that one was pending. -/
theorem stats_scheduled (s : Scheduler) (job : JobId) (record : Record) :
    (s.scheduled job record).stats =
      { s.stats with
        evaluated := s.stats.evaluated + 1
        scheduled := s.stats.scheduled + 1
        replaced := s.stats.replaced + (s.audit job).isSome.toNat
        pending := s.stats.pending - (s.awaits job).toNat + 1 } := by
  simp only [Scheduler.scheduled, Stats.schedule, evaluated, awaits]
  cases s.audit job with
  | none => rfl
  | some previous => cases h : previous.completed <;> simp [h]

theorem awaits_le_isSome (s : Scheduler) (job : JobId) :
    (s.awaits job).toNat ≤ (s.audit job).isSome.toNat := by
  simp only [awaits]
  cases s.audit job with
  | none => exact Nat.le_refl 0
  | some record => exact Bool.toNat_le _

theorem Counted.selected {s : Scheduler} {discarded : Nat} (h : s.Counted discarded)
    (job : JobId) {record : Record} (hopen : record.completed = false) :
    (s.scheduled job record).Counted (discarded + (s.awaits job).toNat) := by
  have hcount := openAudits_scheduled s job hopen
  have hsize := size_scheduled s job record
  have hle := awaits_le_isSome s job
  have hpending : (s.awaits job).toNat ≤ s.stats.pending := by
    cases hjob : s.awaits job with
    | false => exact Nat.zero_le _
    | true => exact h.pending_pos hjob
  obtain ⟨hopenAudits, hstored, houtcomes, hpenalties, haccounted, hdiscarded, hevaluated⟩ := h
  constructor <;> simp only [stats_scheduled] <;> omega

theorem stats_recorded (s : Scheduler) (job : JobId) (found : Record) (passed penalized : Bool) :
    (s.recorded job found passed penalized).stats =
      { s.stats with
        completed := s.stats.completed + 1
        passed := s.stats.passed + passed.toNat
        failed := s.stats.failed + (!passed).toNat
        penaltiesApplied := s.stats.penaltiesApplied + penalized.toNat
        pending := s.stats.pending - 1 } := by
  cases passed <;> cases penalized <;> rfl

theorem openAudits_recorded {s : Scheduler} {caller : Address} {job : JobId} {found : Record}
    (hopen : s.openAudit caller job = .ok found) (passed penalized : Bool) :
    (s.recorded job found passed penalized).openAudits + 1 = s.openAudits := by
  obtain ⟨-, -, haudit, hcompleted⟩ := openAudit_eq_ok.mp hopen
  have h := Table.countP_values_insert (fun record => !record.completed) s.records job
    { found with completed := true, passed }
  rw [audit] at haudit
  simp only [haudit, Option.any_some, hcompleted, Bool.not_false, Bool.not_true, Bool.toNat_true,
    Bool.toNat_false, Nat.add_zero] at h
  exact h

theorem size_recorded {s : Scheduler} {caller : Address} {job : JobId} {found : Record}
    (hopen : s.openAudit caller job = .ok found) (passed penalized : Bool) :
    (s.recorded job found passed penalized).records.size = s.records.size := by
  obtain ⟨-, -, haudit, -⟩ := openAudit_eq_ok.mp hopen
  have h := Table.size_insert s.records job { found with completed := true, passed }
  rw [audit] at haudit
  simp only [haudit, Option.isSome_some, Bool.toNat_true, Nat.add_right_cancel_iff] at h
  exact h

theorem penalized_le_failed (s : Scheduler) (found : Record) (passed : Bool) :
    (s.penaltyFor found passed).isSome.toNat ≤ (!passed).toNat := by
  cases passed with
  | true => simp [penaltyFor_eq]
  | false => exact Bool.toNat_le _

theorem Counted.recorded {s : Scheduler} {discarded : Nat} (h : s.Counted discarded)
    {caller : Address} {job : JobId} {found : Record}
    (hopen : s.openAudit caller job = .ok found) (passed : Bool) :
    (s.recorded job found passed (s.penaltyFor found passed).isSome).Counted discarded := by
  have hcount := openAudits_recorded hopen passed (s.penaltyFor found passed).isSome
  have hsize := size_recorded hopen passed (s.penaltyFor found passed).isSome
  have hpenalized := penalized_le_failed s found passed
  have hverdict : passed.toNat + (!passed).toNat = 1 := by cases passed <;> rfl
  have hpending := h.pending_pos (awaits_of_openAudit hopen)
  obtain ⟨hopenAudits, hstored, houtcomes, hpenalties, haccounted, hdiscarded, hevaluated⟩ := h
  constructor <;> simp only [stats_recorded] <;> omega

/-- Whether an operation that was answered scheduled an audit over one that had no outcome. -/
def discards (before : Scheduler) : Command → Except Error Answer → Bool
  | .finalize job _ _ _, .ok (some _) => before.awaits job
  | _, _ => false

@[simp]
theorem discards_error (s : Scheduler) (command : Command) (cause : Error) :
    s.discards command (.error cause) = false := by
  cases command <;> rfl

@[simp]
theorem discards_none (s : Scheduler) (command : Command) :
    s.discards command (.ok none) = false := by
  cases command <;> rfl

theorem Counted.amended {s : Scheduler} {discarded : Nat} (h : s.Counted discarded)
    {command : Command} {change : Scheduler → Scheduler} {event : Scheduler → Event}
    (hcommand : command.amendment = some (change, event)) : (change s).Counted discarded := by
  obtain ⟨hrecords, hstats⟩ := keeps_of_amendment hcommand s
  obtain ⟨hpending, hstored, houtcomes, hpenalties, haccounted, hdiscarded, hevaluated⟩ := h
  rw [← hstats] at hpending hstored houtcomes hpenalties haccounted hdiscarded hevaluated
  rw [openAudits, ← hrecords] at hpending
  rw [← hrecords] at hstored
  exact ⟨hpending, hstored, houtcomes, hpenalties, haccounted, hdiscarded, hevaluated⟩

/-- Every step keeps the counts in agreement with the audits. -/
theorem Counted.step {env : Environment β} {caller : Address} {command : Command}
    {answer : Except Error Answer} {before after : Site Scheduler β} {discarded : Nat}
    (h : before.state.Counted discarded) (hstep : Step env caller before command answer after) :
    after.state.Counted (discarded + (before.state.discards command answer).toNat) := by
  cases hstep with
  | refused _ cause => simpa using h
  | amended hcommand _ _ => simpa using h.amended hcommand
  | ignored _ _ _ => simpa using h
  | passed _ _ _ _ _ =>
      rw [discards_none]
      exact h.passed
  | scheduled _ _ _ _ _ hrecord =>
      subst hrecord
      exact h.selected _ rfl
  | recorded hopen _ => exact h.recorded hopen _

/-- A step draws at most one seed. -/
theorem evaluated_le_of_step {env : Environment β} {caller : Address} {command : Command}
    {answer : Except Error Answer} {before after : Site Scheduler β}
    (hstep : Step env caller before command answer after) :
    after.state.stats.evaluated ≤ before.state.stats.evaluated + 1 := by
  cases hstep with
  | refused _ cause => exact Nat.le_succ _
  | amended hcommand _ _ =>
      simp only [(keeps_of_amendment hcommand before.state).2]
      exact Nat.le_succ _
  | ignored _ _ _ => exact Nat.le_succ _
  | passed _ _ _ _ _ => exact Nat.le_refl _
  | scheduled _ _ _ _ _ _ => simp only [afterScheduling, stats_scheduled, Nat.le_refl]
  | recorded _ _ =>
      simp only [afterRecording, stats_recorded]
      exact Nat.le_succ _

end Scheduler

/-! ## Runs -/

/-- An operation with its caller, and with what the scheduler works with at that time. -/
structure Call (β : Type) where
  environment : Environment β
  caller : Address
  command : Command

/-- Carries out a call. -/
def Call.perform (call : Call β) : Operation Scheduler β Error Answer :=
  Scheduler.perform call.environment call.caller call.command

/-- Whether a call schedules an audit over one that has no outcome. -/
def Call.discards (call : Call β) (before : Site Scheduler β) : Bool :=
  before.state.discards call.command (call.perform.run before).1

/-- How many calls of a run schedule an audit over one that has no outcome. -/
def discardedAlong (start : Site Scheduler β) (calls : List (Call β)) : Nat :=
  (start.history Call.perform calls).countP fun (before, call) => call.discards before

theorem discardedAlong_concat (start : Site Scheduler β) (calls : List (Call β)) (call : Call β) :
    discardedAlong start (calls ++ [call]) =
      discardedAlong start calls + (call.discards (start.play Call.perform calls)).toNat :=
  Site.countP_history_concat Call.perform start calls call _

theorem counted_play {start : Site Scheduler β} (h : start.state.Counted 0)
    (calls : List (Call β)) :
    (start.play Call.perform calls).state.Counted (discardedAlong start calls) := by
  induction calls using List.reverseRecOn with
  | nil => exact h
  | append_singleton calls call ih =>
      rw [Site.play_concat, discardedAlong_concat]
      exact ih.step (perform_step call.environment call.caller call.command _)

theorem evaluated_play_le (start : Site Scheduler β) (calls : List (Call β)) :
    (start.play Call.perform calls).state.stats.evaluated ≤
      start.state.stats.evaluated + calls.length := by
  induction calls using List.reverseRecOn with
  | nil => exact Nat.le_refl _
  | append_singleton calls call ih =>
      have hstep := Scheduler.evaluated_le_of_step
        (perform_step call.environment call.caller call.command (start.play Call.perform calls))
      simp only [Site.play_concat, List.length_append, List.length_singleton]
      exact Nat.le_trans hstep (Nat.succ_le_succ ih)

/-- Whatever anybody does with a scheduler that was made, and whatever it works with at each time:
the counts agree with its audits. No count of pending audits that goes down starts from nothing: an
audit that gives way before it has an outcome is pending, and so is one whose outcome is recorded.
All counts are bounded by the number of calls. -/
theorem counts_play {authority : Address} {settings : Settings} {sinkConnected : Bool}
    {s : Scheduler} (h : Scheduler.make authority settings sinkConnected = .ok s) (book : β)
    (calls : List (Call β)) :
    let start := Site.start s book
    let site := start.play Call.perform calls
    let stats := site.state.stats
    site.state.Counted (discardedAlong start calls) ∧
      stats.completed + stats.pending ≤ stats.scheduled ∧ stats.scheduled ≤ stats.evaluated ∧
      stats.evaluated ≤ calls.length ∧
      (∀ job, site.state.awaits job = true → 0 < stats.pending) ∧
      ∀ caller job record, site.state.openAudit caller job = .ok record → 0 < stats.pending := by
  intro start site stats
  have hmade := Scheduler.counted_make h
  have hcounted : site.state.Counted (discardedAlong start calls) := counted_play hmade calls
  have hevaluated : stats.evaluated ≤ s.stats.evaluated + calls.length :=
    evaluated_play_le start calls
  rw [(Scheduler.blank_of_make h).2] at hevaluated
  refine ⟨hcounted, ?_, hcounted.scheduled_le, ?_, ?_, ?_⟩
  · rw [hcounted.accounted]
    exact Nat.le_add_right _ _
  · rwa [Stats.zero, Nat.zero_add] at hevaluated
  · intro job hjob
    exact hcounted.pending_pos hjob
  · intro caller job record hopen
    exact hcounted.pending_pos (Scheduler.awaits_of_openAudit hopen)

/-- A job is selected three times: the first audit is discarded, the second is recorded as failed
when the penalty sink works again, and the third takes its place. -/
theorem counts_play_replaced :
    let holder := Address.filled 0xA1
    let settings : Settings := ⟨holder, 10000, Amount.ofNat 5, [holder], .lastWriteWins⟩
    let s : Scheduler := ⟨⟨holder⟩, holder, [holder], 10000, Amount.ofNat 5, true, .lastWriteWins,
      false, Table.empty, Stats.zero⟩
    let working : Environment Unit :=
      ⟨constantSeed Word.zero, ⟨Word.zero, 0⟩, fun _ _ _ => .ok ()⟩
    let broken : Environment Unit :=
      { working with sink := fun _ _ _ => .error (.unavailable "offline") }
    let job := JobId.ofNat 7
    let finalize : Command := .finalize job (Address.filled 0xAB) true Word.zero
    let calls : List (Call Unit) := [
      ⟨working, holder, finalize⟩,
      ⟨working, holder, finalize⟩,
      ⟨broken, holder, .record job false ""⟩,
      ⟨working, holder, .record job false ""⟩,
      ⟨working, holder, finalize⟩]
    let site := (Site.start s ()).play Call.perform calls
    Scheduler.make holder settings true = .ok s ∧ site.state.stats = ⟨3, 3, 2, 1, 0, 1, 1, 1⟩ ∧
      discardedAlong (Site.start s ()) calls = 1 ∧
      site.state.Counted (discardedAlong (Site.start s ()) calls) := by
  intro holder settings s working broken job finalize calls site
  have hmake : Scheduler.make holder settings true = .ok s := rfl
  exact ⟨hmake, by decide +kernel, by decide +kernel, (counts_play hmake () calls).1⟩

end Integrity.Audit
