import Integrity.Proofs.Engine.Step

/-! # What was written last

Some of what a subsystem holds is written by single operations and left alone by all others, like a
cell. After a history it is as the last action that wrote it left it. -/

namespace Integrity.Engine

open Operation

/-! ## Histories -/

variable {α : Type}

/-- What the last of the entries that write anything writes. -/
def latest (write : Entry → Option α) (entries : List Entry) : Option α :=
  (entries.filterMap write).getLast?

theorem latest_cons (write : Entry → Option α) (entry : Entry) (rest : List Entry) :
    latest write (entry :: rest) = (latest write rest).or (write entry) := by
  rw [latest, latest, List.filterMap_cons]
  cases write entry with
  | none => exact Option.or_none.symm
  | some a =>
      rw [List.getLast?_cons]
      cases (rest.filterMap write).getLast? <;> rfl

theorem read_after (read : Engine → Option α) (write : Entry → Option α)
    (h : ∀ engine now action, read (act engine now action).1 =
      (write ⟨engine, action, (engine.act now action).2⟩).or (read engine))
    (engine : Engine) (clock : Nat → Timestamp) (actions : List Action) :
    read (engine.after clock actions) =
      (latest write (engine.history clock actions)).or (read engine) := by
  induction actions generalizing engine clock with
  | nil => rfl
  | cons action rest ih => rw [after, history, latest_cons, ih, h, Option.or_assoc]

/-! ## Cells of the subsystems -/

/-- What was asked of the audit scheduler, and its answer. -/
def Entry.audited? (entry : Entry) : Option (Audit.Command × Except Audit.Error Audit.Answer) :=
  match entry.action, entry.result with
  | .audit _ command, .ok (.audit answer) => some (command, .ok answer)
  | .audit _ command, .error (.audit cause) => some (command, .error cause)
  | _, _ => none

/-- What was asked of the dispute resolver, and its answer. -/
def Entry.disputed? (entry : Entry) :
    Option (Dispute.Command × Except Dispute.Error Dispute.Answer) :=
  match entry.action, entry.result with
  | .dispute _ command, .ok (.dispute answer) => some (command, .ok answer)
  | .dispute _ command, .error (.dispute cause) => some (command, .error cause)
  | _, _ => none

theorem bind_audit_act (read : Audit.Scheduler → Option α)
    (write : Collaborators → Audit.Command → Except Audit.Error Audit.Answer → Option α)
    (h : ∀ {c : Collaborators} {caller s command answer site},
      Audit.Step (auditEnvironment c) caller (.start s c.book) command answer site →
        read site.state = (write c command answer).or (read s))
    (engine : Engine) (now : Timestamp) (action : Action) :
    (engine.act now action).1.audit.bind read =
      ((Entry.mk engine action (engine.act now action).2).audited?.bind fun call =>
        write engine.collaborators call.1 call.2).or (engine.audit.bind read) := by
  have hstep := act_step engine now action
  generalize engine.act now action = outcome at hstep
  obtain ⟨after, result⟩ := outcome
  cases hstep with
  | @audit caller command s answer site hs hrun =>
      have hread := h (Audit.step_of_run hrun)
      rw [hs]
      cases answer <;> exact hread
  | absent subsystem => cases action <;> rfl
  | declined cause => cases action <;> rfl
  | arranged haction collaborators => cases action <;> rfl
  | told event times => rfl
  | temperature hc hrun => rfl
  | dispute hr hrun => rfl

theorem bind_disputes_act (read : Dispute.Resolver → Option α)
    (write : Dispute.Command → Except Dispute.Error Dispute.Answer → Option α)
    (h : ∀ {env : Dispute.Environment Ledger} {caller r ledger command answer site},
      Dispute.Step env caller (.start r ledger) command answer site →
        read site.state = (write command answer).or (read r))
    (engine : Engine) (now : Timestamp) (action : Action) :
    (engine.act now action).1.disputes.bind read =
      ((Entry.mk engine action (engine.act now action).2).disputed?.bind fun call =>
        write call.1 call.2).or (engine.disputes.bind read) := by
  have hstep := act_step engine now action
  generalize engine.act now action = outcome at hstep
  obtain ⟨after, result⟩ := outcome
  cases hstep with
  | @dispute caller command r answer site hr hrun =>
      have hread := h (Dispute.step_of_run hrun)
      rw [hr]
      cases answer <;> exact hread
  | absent subsystem => cases action <;> rfl
  | declined cause => cases action <;> rfl
  | arranged haction collaborators => cases action <;> rfl
  | told event times => rfl
  | temperature hc hrun => rfl
  | audit hs hrun => rfl

variable (engine : Engine) (clock : Nat → Timestamp) (actions : List Action)

/-- A cell of the audit scheduler. -/
theorem bind_audit_after (read : Audit.Scheduler → Option α)
    (write : Collaborators → Audit.Command → Except Audit.Error Audit.Answer → Option α)
    (h : ∀ {c : Collaborators} {caller s command answer site},
      Audit.Step (auditEnvironment c) caller (.start s c.book) command answer site →
        read site.state = (write c command answer).or (read s)) :
    (engine.after clock actions).audit.bind read =
      (latest
        (fun entry => entry.audited?.bind fun call =>
          write entry.before.collaborators call.1 call.2)
        (engine.history clock actions)).or (engine.audit.bind read) :=
  read_after (fun engine => engine.audit.bind read) _ (bind_audit_act read write h) engine clock
    actions

/-- A cell of the dispute resolver. -/
theorem bind_disputes_after (read : Dispute.Resolver → Option α)
    (write : Dispute.Command → Except Dispute.Error Dispute.Answer → Option α)
    (h : ∀ {env : Dispute.Environment Ledger} {caller r ledger command answer site},
      Dispute.Step env caller (.start r ledger) command answer site →
        read site.state = (write command answer).or (read r)) :
    (engine.after clock actions).disputes.bind read =
      (latest (fun entry => entry.disputed?.bind fun call => write call.1 call.2)
        (engine.history clock actions)).or (engine.disputes.bind read) :=
  read_after (fun engine => engine.disputes.bind read) _ (bind_disputes_act read write h) engine
    clock actions

end Integrity.Engine
