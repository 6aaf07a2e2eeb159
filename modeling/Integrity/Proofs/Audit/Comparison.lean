import Integrity.Proofs.Audit.Control
import Integrity.Proofs.Audit.Decision
import Mathlib.Data.List.Forall2
import Mathlib.Data.Set.Basic

/-! # Audits at a higher probability

Two schedulers that differ in nothing but the probability drift apart: a job may be selected at the
higher probability only, and its next report refused there only. What does not depend on the
probability moves in the same way in both, and it decides who may do what. So a report on which a
job is selected at the lower probability finds it audited at the higher one, or selects it there
too. -/

namespace Integrity.Audit

open Operation

variable {β γ : Type}

/-! ## What does not depend on the probability -/

/-- The scheduler without its probability, its audits and their counts. -/
def Scheduler.frame (s : Scheduler) : Scheduler :=
  { s.setup with probability := 0 }

/-- What an administrative operation makes of a scheduler; any other operation makes nothing of
it. -/
def Command.adjust (caller : Address) (command : Command) (s : Scheduler) : Scheduler :=
  match command.amendment with
  | none => s
  | some (change, _) => if s.authority.isHeldBy caller then change s else s

theorem perform_of_amendment {command : Command} {change : Scheduler → Scheduler}
    {event : Scheduler → Event} (hcommand : command.amendment = some (change, event))
    (hother : ∀ probability, command ≠ .setProbability probability) (env : Environment β)
    (caller : Address) :
    Scheduler.perform env caller command = settle (Scheduler.administer caller change event) := by
  cases command with
  | setProbability probability => exact absurd rfl (hother probability)
  | _ => cases hcommand <;> rfl

theorem frame_of_amendment {command : Command} {change : Scheduler → Scheduler}
    {event : Scheduler → Event} (hcommand : command.amendment = some (change, event))
    (hother : ∀ probability, command ≠ .setProbability probability) (s : Scheduler) :
    (change s).frame = change s.frame := by
  cases command with
  | setProbability probability => exact absurd rfl (hother probability)
  | _ => cases hcommand <;> rfl

theorem state_administer (caller : Address) (change : Scheduler → Scheduler)
    (event : Scheduler → Event) (site : Site Scheduler β) :
    ((settle (Scheduler.administer caller change event)).run site).2.state =
      if site.state.authority.isHeldBy caller then change site.state else site.state := by
  rw [settle, run_bind, Scheduler.administer, run_amend, Scheduler.ensureAuthority]
  cases site.state.authority.isHeldBy caller <;> rfl

/-- The frame moves on its own, whatever the probability and the audits are. -/
theorem frame_perform (env : Environment β) (caller : Address) {command : Command}
    (hother : ∀ probability, command ≠ .setProbability probability) (site : Site Scheduler β) :
    ((Scheduler.perform env caller command).run site).2.state.frame =
      command.adjust caller site.state.frame := by
  cases hcommand : command.amendment with
  | none =>
      have hopen : command.isAdministrative = false := by
        cases command <;> first | rfl | cases hcommand
      have hsetup := (perform_step env caller command site).setup_eq hopen
      rw [Scheduler.frame, hsetup, Command.adjust, hcommand, Scheduler.frame]
  | some amendment =>
      obtain ⟨change, event⟩ := amendment
      have hframe := frame_of_amendment hcommand hother site.state
      rw [perform_of_amendment hcommand hother, state_administer, apply_ite Scheduler.frame, hframe]
      simp only [Command.adjust, hcommand]
      rfl

theorem Step.probability_eq {env : Environment β} {caller : Address} {command : Command}
    {answer : Except Error Answer} {before after : Site Scheduler β}
    (h : Step env caller before command answer after)
    (hother : ∀ probability, command ≠ .setProbability probability) :
    after.state.probability = before.state.probability := by
  cases h with
  | amended hcommand _ _ =>
      cases command with
      | setProbability probability => exact absurd rfl (hother probability)
      | _ => cases hcommand <;> rfl
  | _ => rfl

/-! ## Jobs with an audit -/

/-- The jobs that have an audit. -/
def Scheduler.audited (s : Scheduler) : Set JobId :=
  {job | (s.audit job).isSome = true}

theorem Scheduler.mem_audited {s : Scheduler} {job : JobId} :
    job ∈ s.audited ↔ (s.audit job).isSome = true :=
  Iff.rfl

theorem Scheduler.audited_subset_of_insert {s t : Scheduler} {job : JobId} {record : Record}
    (h : t.records = s.records.insert job record) : s.audited ⊆ t.audited := by
  intro other hother
  rw [mem_audited, audit, h, Table.get?_insert]
  by_cases hjob : job = other
  · rw [if_pos hjob, Option.isSome_some]
  · rw [if_neg hjob]
    exact hother

/-- No operation takes an audit away. -/
theorem Step.audited_subset {env : Environment β} {caller : Address} {command : Command}
    {answer : Except Error Answer} {before after : Site Scheduler β}
    (h : Step env caller before command answer after) :
    before.state.audited ⊆ after.state.audited := by
  cases h with
  | amended hcommand _ _ =>
      intro job hjob
      rwa [Scheduler.mem_audited, Scheduler.audit, (keeps_of_amendment hcommand before.state).1]
  | scheduled _ _ _ _ _ _ => exact Scheduler.audited_subset_of_insert rfl
  | recorded _ _ => exact Scheduler.audited_subset_of_insert rfl
  | _ => exact subset_rfl

theorem Step.mem_audited_of_not_schedules {env : Environment β} {caller : Address}
    {command : Command} {answer : Except Error Answer} {before after : Site Scheduler β}
    (hstep : Step env caller before command answer after) {job : JobId}
    (h : schedules job command answer = false) (hjob : job ∈ after.state.audited) :
    job ∈ before.state.audited := by
  have hfresh := congrArg Option.isSome (fresh_audit_of_not_schedules hstep h)
  rw [Option.isSome_map, Option.isSome_map] at hfresh
  exact hfresh.symm.trans hjob

theorem mem_audited_of_selected {report : Report} {env : Environment β} {caller : Address}
    {site : Site Scheduler β} (h : report.verdict env caller site.state = .selected) :
    report.job ∈ ((Scheduler.perform env caller report.command).run site).2.state.audited := by
  have hcarried := carried_finalize report env caller site
  rw [h] at hcarried
  generalize (Scheduler.perform env caller report.command).run site = outcome at hcarried ⊢
  obtain ⟨answer, after⟩ := outcome
  cases hcarried with
  | selected hselects =>
      rw [Scheduler.mem_audited, hselects.audit, if_pos rfl, Option.isSome_some]

/-! ## Two schedulers -/

/-- Schedulers with the same frame; the second has a higher probability, and all audits that the
first has. -/
structure Scheduler.Below (s t : Scheduler) : Prop where
  frame : t.frame = s.frame
  probability_le : s.probability.toNat ≤ t.probability.toNat
  audited : s.audited ⊆ t.audited

/-- The same call, in the same block and under the same rule for seeds. The penalty sinks may
differ. -/
structure Call.Alike (call : Call β) (other : Call γ) : Prop where
  seeds : other.environment.seeds = call.environment.seeds
  chain : other.environment.chain = call.environment.chain
  caller : other.caller = call.caller
  command : other.command = call.command

theorem Scheduler.Below.selected {s t : Scheduler} (h : s.Below t) {call : Call β} {other : Call γ}
    (halike : call.Alike other) {report : Report}
    (hselected : report.verdict call.environment call.caller s = .selected)
    (hfree : report.job ∉ t.audited) :
    report.verdict other.environment other.caller t = .selected := by
  have hpaused : t.paused = s.paused := (congrArg Scheduler.paused h.frame :)
  have hnotifier : t.notifier = s.notifier := (congrArg Scheduler.notifier h.frame :)
  have hseed : report.seed other.environment = report.seed call.environment := by
    rw [Report.seed, halike.seeds, halike.chain, Report.seed]
  have hlt := Nat.lt_of_lt_of_le (seed_lt_of_verdict_eq hselected) h.probability_le
  have hprobability : t.probability ≠ 0 := by
    rintro hzero
    rw [hzero] at hlt
    exact absurd hlt (Nat.not_lt_zero _)
  simp only [Report.verdict] at hselected
  split_ifs at hselected with hstopped hrefused hidle
  have hbusy : ¬(report.success = false ∨ report.agent = Address.null ∨ t.probability = 0) := by
    rintro (hfailed | hnobody | hnever)
    · exact hidle (.inl hfailed)
    · exact hidle (.inr (.inl hnobody))
    · exact hprobability hnever
  rw [Report.verdict, hpaused, hnotifier, halike.caller, if_neg hstopped, if_neg hrefused,
    if_neg hbusy, if_neg fun htaken => hfree htaken.1, hseed, if_pos hlt]

/-- The jobs with an audit in the first stay among those in the second: a report on which one is
selected in the first finds an audit in the second, or is selected there as well. -/
theorem Scheduler.Below.step {call : Call β} {other : Call γ} (halike : call.Alike other)
    (hkept : ∀ probability, call.command ≠ .setProbability probability)
    {first : Site Scheduler β} {second : Site Scheduler γ} (h : first.state.Below second.state) :
    (call.perform.run first).2.state.Below (other.perform.run second).2.state := by
  have hkept' : ∀ probability, other.command ≠ .setProbability probability := by
    rw [halike.command]
    exact hkept
  have hfirst := perform_step call.environment call.caller call.command first
  have hsecond := perform_step other.environment other.caller other.command second
  constructor
  case frame =>
    rw [Call.perform, Call.perform, frame_perform _ _ hkept, frame_perform _ _ hkept',
      halike.command, halike.caller, h.frame]
  case probability_le =>
    rw [Call.perform, Call.perform, hfirst.probability_eq hkept, hsecond.probability_eq hkept']
    exact h.probability_le
  case audited =>
    intro job hjob
    cases hschedules : call.schedules job first with
    | false =>
        have hearlier := hfirst.mem_audited_of_not_schedules hschedules hjob
        exact hsecond.audited_subset (h.audited hearlier)
    | true =>
        obtain ⟨report, record, rfl, -, hwarrants⟩ := warrants_of_schedules hschedules
        by_cases htaken : report.job ∈ second.state.audited
        · exact hsecond.audited_subset htaken
        · have hselected := h.selected halike hwarrants.verdict htaken
          rw [Call.perform, halike.command, hwarrants.command]
          exact mem_audited_of_selected hselected

theorem below_play {calls : List (Call β)} {others : List (Call γ)}
    (halike : List.Forall₂ Call.Alike calls others)
    (hkept : ∀ call ∈ calls, ∀ probability, call.command ≠ .setProbability probability)
    {first : Site Scheduler β} {second : Site Scheduler γ} (h : first.state.Below second.state) :
    (first.play Call.perform calls).state.Below (second.play Call.perform others).state := by
  induction halike generalizing first second with
  | nil => exact h
  | cons hcall _ ih =>
      rw [List.forall_mem_cons] at hkept
      rw [Site.play_cons, Site.play_cons]
      exact ih hkept.2 (h.step hcall hkept.1)

/-- Two schedulers start as the same but for their probabilities, and the same calls are made to
both, none of which sets the probability. After every call, a job that has an audit at the lower
probability has one at the higher. -/
theorem audited_play_subset (s : Scheduler) {probability : UInt16}
    (hle : s.probability ≤ probability) {calls : List (Call β)} {others : List (Call γ)}
    (halike : List.Forall₂ Call.Alike calls others)
    (hkept : ∀ call ∈ calls, ∀ probability, call.command ≠ .setProbability probability)
    (book : β) (other : γ) (n : Nat) :
    let lower := (Site.start s book).play Call.perform (calls.take n)
    let higher := (Site.start { s with probability } other).play Call.perform (others.take n)
    lower.state.audited ⊆ higher.state.audited := by
  intro lower higher
  have hstart : s.Below { s with probability } := ⟨rfl, hle, subset_rfl⟩
  refine (below_play (List.forall₂_take n halike) ?_ hstart).audited
  intro call hcall
  exact hkept call (List.mem_of_mem_take hcall)

/-- A job that fails its audit at the higher probability only is refused there when its report
comes again, and then selected at the lower one too. -/
theorem audited_play_subset_refused :
    let holder := Address.filled 0xA1
    let agent := Address.filled 0xAB
    let settings : Settings := ⟨holder, 500, Amount.ofNat 5, [holder], .lastWriteWins⟩
    let s : Scheduler := ⟨⟨holder⟩, holder, [holder], 500, Amount.ofNat 5, true, .lastWriteWins,
      false, Table.empty, Stats.zero⟩
    let env : Environment Unit :=
      ⟨fun input _ => input.result, ⟨Word.zero, 60⟩, fun _ _ _ => .ok ()⟩
    let job := JobId.ofNat 7
    let calls : List (Call Unit) := [
      ⟨env, holder, .finalize job agent true (Word.ofNat 500)⟩,
      ⟨env, holder, .record job false ""⟩,
      ⟨env, holder, .setPolicy .rejectExisting⟩,
      ⟨env, holder, .finalize job agent true (Word.ofNat 499)⟩]
    let site (probability : UInt16) (n : Nat) : Site Scheduler Unit :=
      (Site.start { s with probability } ()).play Call.perform (calls.take n)
    Scheduler.make holder settings true = .ok s ∧
      Scheduler.make holder { settings with probability := 10000 } true =
        .ok { s with probability := 10000 } ∧
      job ∉ (site 500 3).state.audited ∧ job ∈ (site 10000 3).state.audited ∧
      (site 500 4).state.stats.evaluated = 2 ∧ (site 10000 4).state.stats.evaluated = 1 ∧
      job ∈ (site 500 4).state.audited ∧
      ∀ n, (site 500 n).state.audited ⊆ (site 10000 n).state.audited := by
  intro holder agent settings s env job calls site
  have halike : List.Forall₂ Call.Alike calls calls :=
    List.forall₂_same.mpr fun call _ => ⟨rfl, rfl, rfl, rfl⟩
  have hkept : ∀ call ∈ calls, ∀ probability, call.command ≠ .setProbability probability := by
    simp [calls]
  refine ⟨rfl, rfl, ?_, ?_, by decide +kernel, by decide +kernel, ?_, ?_⟩
  · rw [Scheduler.mem_audited]
    decide +kernel
  · rw [Scheduler.mem_audited]
    decide +kernel
  · rw [Scheduler.mem_audited]
    decide +kernel
  · intro n
    have hle : s.probability ≤ 10000 := by decide
    with_reducible exact audited_play_subset s hle halike hkept () () n

end Integrity.Audit
