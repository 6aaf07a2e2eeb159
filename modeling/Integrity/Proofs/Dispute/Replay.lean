import Integrity.Proofs.Dispute.LifeCycle

/-! # What the log tells of a dispute, and what it leaves out

The log is told on what terms a dispute is raised, and when it is settled. So the open disputes can
be worked out from the log, but for one thing: of the jury it is only told the size. -/

namespace Integrity.Dispute

open Operation

/-! ## What is told -/

/-- The terms of all open disputes after one more event. -/
def recount (terms : JobId → Option Terms) : Event → JobId → Option Terms
  | .disputeRaised job appellant bond jurySize => fun other =>
    if job = other then some ⟨appellant, bond, jurySize⟩ else terms other
  | .disputeResolved job _ _ _ => fun other => if job = other then none else terms other
  | _ => terms

/-- The terms of the open disputes of a resolver. -/
def Resolver.terms (r : Resolver) (job : JobId) : Option Terms :=
  (r.dispute job).map Record.terms

theorem recount_of_amendment {command : Command} {change : Resolver → Resolver}
    {event : Resolver → Event} (h : command.amendment = some (change, event)) (r : Resolver)
    (terms : JobId → Option Terms) : recount terms (event r) = terms := by
  cases command <;> cases h <;> rfl

theorem dispute_of_amendment {command : Command} {change : Resolver → Resolver}
    {event : Resolver → Event} (h : command.amendment = some (change, event)) (r : Resolver) :
    (change r).dispute = r.dispute := by
  funext job
  rw [Resolver.dispute, Resolver.dispute, (keeps_of_amendment h r).1]

variable {γ : Type}

/-- The events of a step turn the terms before it into those after it. -/
theorem Step.terms {env : Environment γ} {caller : Address} {command : Command}
    {answer : Except Error Answer} {r : Resolver} {ledger : γ} {site : Site Resolver γ}
    (h : Step env caller (.start r ledger) command answer site) :
    site.state.terms = site.events.foldl recount r.terms := by
  cases h with
  | refused _ cause => rfl
  | abandonedRaise job bond => rfl
  | abandonedResolve job employerWins => rfl
  | @amended command change event hcommand _ =>
      refine Eq.trans ?_ (recount_of_amendment hcommand r r.terms).symm
      funext job
      rw [Resolver.terms, Resolver.terms]
      exact congrArg (fun dispute => (dispute job).map Record.terms)
        (dispute_of_amendment hcommand r)
  | raised _ _ _ _ _ =>
      funext other
      simp only [Resolver.afterOpening, Site.start, Resolver.terms, Resolver.dispute_opened,
        List.nil_append, List.foldl_cons, List.foldl_nil, recount]
      split <;> rfl
  | resolved _ _ _ _ =>
      funext other
      simp only [Resolver.afterClosing, Site.start, Resolver.terms, Resolver.dispute_closed,
        List.nil_append, List.foldl_cons, List.foldl_nil, recount]
      split <;> rfl

/-! ## What is left out -/

/-- The jury of the open dispute of a job. -/
def Resolver.jury (r : Resolver) (job : JobId) : Option (List Address) :=
  (r.dispute job).map Record.jury

/-- The jury that an operation seats for a job, or nothing in its place when it dismisses it. -/
def seats? (job : JobId) : Command → Except Error Answer → Option (Option (List Address))
  | .raise raised _, .ok (.opened record) => if raised = job then some (some record.jury) else none
  | .resolve resolved _, .ok _ => if resolved = job then some none else none
  | _, _ => none

/-- A step leaves the juries as it seats them, or else as they were. -/
theorem Step.jury {env : Environment γ} {caller : Address} {command : Command}
    {answer : Except Error Answer} {before after : Site Resolver γ}
    (h : Step env caller before command answer after) (job : JobId) :
    after.state.jury job = (seats? job command answer).getD (before.state.jury job) := by
  cases h with
  | refused command cause => cases command <;> rfl
  | abandonedRaise _ _ => rfl
  | abandonedResolve _ _ => rfl
  | amended hcommand _ =>
      have hnone : seats? job command (.ok .done) = none := by
        cases command <;> first | rfl | cases hcommand
      rw [hnone, Option.getD_none, Resolver.jury, dispute_of_amendment hcommand]
      rfl
  | raised _ _ _ _ _ =>
      simp only [Resolver.jury, Resolver.afterOpening, Resolver.dispute_opened, seats?]
      split <;> rfl
  | resolved _ _ _ _ =>
      simp only [Resolver.jury, Resolver.afterClosing, Resolver.dispute_closed, seats?]
      split <;> rfl

/-- A dispute is what the log is told of it and its jury. -/
theorem Resolver.dispute_eq_iff {r other : Resolver} {job : JobId} :
    r.dispute job = other.dispute job ↔
      r.terms job = other.terms job ∧ r.jury job = other.jury job := by
  simp only [terms, jury]
  cases r.dispute job with
  | none => cases other.dispute job <;> simp
  | some record =>
      cases other.dispute job with
      | none => simp
      | some found =>
          obtain ⟨appellant, bond, jury⟩ := record
          obtain ⟨appellant', bond', jury'⟩ := found
          simp only [Option.map_some, Option.some.injEq, Record.terms, Terms.mk.injEq,
            Record.mk.injEq]
          constructor
          · rintro ⟨rfl, rfl, rfl⟩
            exact ⟨⟨rfl, rfl, rfl⟩, rfl⟩
          · rintro ⟨⟨rfl, rfl, -⟩, rfl⟩
            exact ⟨rfl, rfl, rfl⟩

end Integrity.Dispute
