import Integrity.Proofs.Audit.Step
import Integrity.Proofs.Dispute.Step
import Integrity.Proofs.Engine.Alike
import Integrity.Proofs.Engine.History
import Integrity.Proofs.Temperature.Step
import Mathlib.Data.List.Forall2

/-! # Failures may be deleted

An action that fails, or a report that is dropped before its seed is drawn, leaves an engine as it
was, but for the count of refused ticks. So it can be taken out of a history, and the rest goes
through as before, even at other times. -/

namespace Integrity.Engine

/-! ## What is noted of nothing -/

theorem alike_note_nil (engine : Engine) (now : Timestamp) :
    Alike (engine.note now [] []) engine := by
  rw [note_nil]
  exact .refl engine

theorem alike_note_tickRejected (engine : Engine) (now : Timestamp) :
    Alike (engine.note now [] [.tickRejected]) engine := by
  refine ⟨rfl, rfl, rfl, ?_, ?_, rfl⟩
  · simp only [note, observe, EventLog.numbered, EventLog.append, EventLog.recordsFrom,
      List.append_nil]
  · simp only [note, observe]
    cases engine.metrics <;> rfl

/-! ## Operations that leave their site as it was -/

theorem alike_actAudit_of_start {engine : Engine} {scheduler : Audit.Scheduler}
    (hscheduler : engine.audit = some scheduler) (now : Timestamp) {caller : Address}
    {command : Audit.Command}
    (hsite :
      ((Audit.Scheduler.perform (auditEnvironment engine.collaborators) caller command).run
        (.start scheduler engine.collaborators.book)).2 =
          .start scheduler engine.collaborators.book) :
    Alike (engine.actAudit now caller command).1 engine := by
  simp only [actAudit, hscheduler, hsite]
  refine (alike_note_nil _ now).trans ?_
  exact ⟨rfl, hscheduler.symm, rfl, rfl, rfl, rfl⟩

theorem alike_actDispute_of_start {engine : Engine} {resolver : Dispute.Resolver}
    (hresolver : engine.disputes = some resolver) (now : Timestamp) {caller : Address}
    {command : Dispute.Command}
    (hsite :
      ((Dispute.Resolver.perform (disputeEnvironment engine.collaborators resolver) caller
        command).run (.start resolver engine.collaborators.ledger)).2 =
          .start resolver engine.collaborators.ledger) :
    Alike (engine.actDispute now caller command).1 engine := by
  simp only [actDispute, hresolver, hsite]
  refine (alike_note_nil _ now).trans ?_
  exact ⟨rfl, rfl, hresolver.symm, rfl, rfl, rfl⟩

/-! ## Actions that fail -/

theorem exists_error_of_mapError {ε ε' α α' : Type} {answer : Except ε α} {f : α → α'}
    {g : ε → ε'} {cause : ε'} (h : (answer.map f).mapError g = .error cause) :
    ∃ refusal, answer = .error refusal := by
  cases answer with
  | error refusal => exact ⟨refusal, rfl⟩
  | ok a => cases h

theorem alike_actTemperature_of_error {engine : Engine} {now : Timestamp} {caller : Address}
    {command : Temperature.Command} {cause : Failure}
    (h : (engine.actTemperature now caller command).2 = .error cause) :
    Alike (engine.actTemperature now caller command).1 engine := by
  cases hcontroller : engine.temperature with
  | none =>
      simp only [actTemperature, hcontroller]
      exact .refl engine
  | some controller =>
      have hstep := Temperature.perform_step caller command (.start controller ())
      have hsame : Alike { engine with temperature := some controller } engine :=
        ⟨hcontroller.symm, rfl, rfl, rfl, rfl, rfl⟩
      simp only [actTemperature, hcontroller] at h ⊢
      obtain ⟨refusal, hanswer⟩ := exists_error_of_mapError h
      rw [hanswer] at hstep
      rcases hstep.eq_of_error with hsite | hsite
      · rw [hsite]
        exact (alike_note_nil _ now).trans hsame
      · rw [hsite]
        exact (alike_note_tickRejected _ now).trans hsame

theorem alike_actAudit_of_error {engine : Engine} {now : Timestamp} {caller : Address}
    {command : Audit.Command} {cause : Failure}
    (h : (engine.actAudit now caller command).2 = .error cause) :
    Alike (engine.actAudit now caller command).1 engine := by
  cases hscheduler : engine.audit with
  | none =>
      simp only [actAudit, hscheduler]
      exact .refl engine
  | some scheduler =>
      have hstep := Audit.perform_step (auditEnvironment engine.collaborators) caller command
        (.start scheduler engine.collaborators.book)
      simp only [actAudit, hscheduler] at h
      obtain ⟨refusal, hanswer⟩ := exists_error_of_mapError h
      rw [hanswer] at hstep
      exact alike_actAudit_of_start hscheduler now hstep.eq_of_error

theorem alike_actDispute_of_error {engine : Engine} {now : Timestamp} {caller : Address}
    {command : Dispute.Command} {cause : Failure}
    (h : (engine.actDispute now caller command).2 = .error cause) :
    Alike (engine.actDispute now caller command).1 engine := by
  cases hresolver : engine.disputes with
  | none =>
      simp only [actDispute, hresolver]
      exact .refl engine
  | some resolver =>
      have hstep := Dispute.perform_step (disputeEnvironment engine.collaborators resolver) caller
        command (.start resolver engine.collaborators.ledger)
      simp only [actDispute, hresolver] at h
      obtain ⟨refusal, hanswer⟩ := exists_error_of_mapError h
      rw [hanswer] at hstep
      exact alike_actDispute_of_start hresolver now hstep.eq_of_error

theorem settleLedger_of_error {engine : Engine} {outcome : Except CollaboratorError Ledger}
    {cause : Failure} (h : (engine.settleLedger outcome).2 = .error cause) :
    (engine.settleLedger outcome).1 = engine := by
  cases outcome with
  | error refusal => rfl
  | ok ledger => cases h

theorem settleBook_of_error {engine : Engine} {outcome : Except CollaboratorError ReputationBook}
    {cause : Failure} (h : (engine.settleBook outcome).2 = .error cause) :
    (engine.settleBook outcome).1 = engine := by
  cases outcome with
  | error refusal => rfl
  | ok book => cases h

/-- An action that fails leaves the engine as it was, but for the count of refused ticks. -/
theorem alike_act_of_error {engine : Engine} {now : Timestamp} {action : Action} {cause : Failure}
    (h : (engine.act now action).2 = .error cause) : Alike (engine.act now action).1 engine := by
  cases action with
  | temperature caller command => exact alike_actTemperature_of_error h
  | audit caller command => exact alike_actAudit_of_error h
  | dispute caller command => exact alike_actDispute_of_error h
  | credit account amount =>
      rw [act, settleLedger_of_error h]
      exact .refl engine
  | transfer source target amount =>
      rw [act, settleLedger_of_error h]
      exact .refl engine
  | subtract agent amount =>
      rw [act, settleBook_of_error h]
      exact .refl engine
  | _ => cases h

/-! ## Reports that are dropped -/

/-- Whether an action is a report that the audit scheduler has no use for: of a failure, or of
nobody's work, or while no job is audited. -/
def drops (engine : Engine) : Action → Bool
  | .audit _ (.finalize _ agent success _) =>
    engine.audit.any fun scheduler => decide (scheduler.Idle agent success)
  | _ => false

theorem alike_act_of_drops {engine : Engine} (now : Timestamp) {action : Action}
    (h : engine.drops action = true) : Alike (engine.act now action).1 engine := by
  cases action with
  | audit caller command =>
      cases command with
      | finalize job agent success result =>
          simp only [drops, Option.any_eq_true, decide_eq_true_eq] at h
          obtain ⟨scheduler, hscheduler, hidle⟩ := h
          apply alike_actAudit_of_start hscheduler now
          exact (Audit.perform_step _ caller _ _).eq_of_idle hidle
      | _ => cases h
  | _ => cases h

/-! ## Histories -/

/-- Whether nothing came of an entry: it failed, or it was answered with nothing because the report
was dropped. -/
def Entry.isVoid (entry : Entry) : Bool :=
  match entry.result with
  | .error _ => true
  | .ok answer => answer = .audit none && entry.before.drops entry.action

theorem alike_act_of_isVoid {engine : Engine} {now : Timestamp} {action : Action}
    (h : (Entry.mk engine action (engine.act now action).2).isVoid = true) :
    Alike (engine.act now action).1 engine := by
  cases hresult : (engine.act now action).2 with
  | error cause => exact alike_act_of_error hresult
  | ok answer =>
      simp only [Entry.isVoid, hresult, Bool.and_eq_true] at h
      exact alike_act_of_drops now h.2

/-- The entries of a history that something came of. -/
def kept (entries : List Entry) : List Entry :=
  entries.filter fun entry => !entry.isVoid

/-- The same action, met by engines that are alike and answered alike. -/
structure Entry.Matches (entry other : Entry) : Prop where
  before : Alike entry.before other.before
  action : entry.action = other.action
  result : entry.result = other.result

theorem Alike.history_kept {engine other : Engine} (h : Alike engine other)
    (clock later : Nat → Timestamp) (actions : List Action) :
    List.Forall₂ Entry.Matches
        (other.history later ((kept (engine.history clock actions)).map Entry.action))
        (kept (engine.history clock actions)) ∧
      Alike (other.after later ((kept (engine.history clock actions)).map Entry.action))
        (engine.after clock actions) := by
  induction actions generalizing engine other clock later with
  | nil => exact ⟨.nil, h.symm⟩
  | cons action rest ih =>
      -- The second history either skips the action, and the engines stay alike because nothing
      -- came of it, or makes the same step.
      by_cases hvoid : (Entry.mk engine action (engine.act (clock 0) action).2).isVoid = true
      · have hskip := (alike_act_of_isVoid hvoid).trans h
        simp only [history, after, kept, List.filter_cons, hvoid, Bool.not_true,
          Bool.false_eq_true, if_false]
        exact ih hskip (fun n => clock (n + 1)) later
      · obtain ⟨hresult, hafter⟩ := h.act (clock 0) (later 0) action
        obtain ⟨hrest, hfinal⟩ := ih hafter (fun n => clock (n + 1)) (fun n => later (n + 1))
        simp only [history, after, kept, List.filter_cons, hvoid, Bool.not_false, if_true,
          List.map_cons]
        exact ⟨.cons ⟨h.symm, rfl, hresult.symm⟩ hrest, hfinal⟩

/-- Take any history of an engine, and carry out again, at whatever times, only the actions that
something came of. Each meets an engine like the one that it met, and is answered as before; and the
engine ends alike. -/
theorem history_without_voids (engine : Engine) (clock later : Nat → Timestamp)
    (actions : List Action) :
    List.Forall₂ Entry.Matches
        (engine.history later ((kept (engine.history clock actions)).map Entry.action))
        (kept (engine.history clock actions)) ∧
      Alike (engine.after later ((kept (engine.history clock actions)).map Entry.action))
        (engine.after clock actions) :=
  (Alike.refl engine).history_kept clock later actions

end Integrity.Engine
