import Integrity.Dispute.Resolver
import Integrity.Proofs.Operation.ReadOnly

/-! # Steps of the dispute resolver

Every operation looks first, may then pay, and changes the resolver last. So it either leaves its
site as it was, or does all of what it is for; `Step` lists what that can be. -/

namespace Integrity.Dispute

open Operation

variable {γ : Type}

namespace Resolver

/-- The resolver with one more dispute. -/
def opened (r : Resolver) (job : JobId) (record : Record) : Resolver :=
  { r with disputes := r.disputes.insert job record, raised := r.raised + 1 }

/-- The resolver with a dispute settled. -/
def closed (r : Resolver) (job : JobId) (employerWins : Bool) : Resolver :=
  { r with disputes := r.disputes.erase job }.countVerdict employerWins

@[simp]
theorem disputes_countVerdict (r : Resolver) (employerWins : Bool) :
    (r.countVerdict employerWins).disputes = r.disputes := by
  cases employerWins <;> rfl

@[simp]
theorem escrowAccount_countVerdict (r : Resolver) (employerWins : Bool) :
    (r.countVerdict employerWins).escrowAccount = r.escrowAccount := by
  cases employerWins <;> rfl

@[simp]
theorem disputes_closed (r : Resolver) (job : JobId) (employerWins : Bool) :
    (r.closed job employerWins).disputes = r.disputes.erase job :=
  disputes_countVerdict _ employerWins

@[simp]
theorem escrowAccount_closed (r : Resolver) (job : JobId) (employerWins : Bool) :
    (r.closed job employerWins).escrowAccount = r.escrowAccount :=
  escrowAccount_countVerdict _ employerWins

theorem dispute_opened (r : Resolver) (job other : JobId) (record : Record) :
    (r.opened job record).dispute other =
      if job = other then some record else r.dispute other :=
  Table.get?_insert _ _ _ _

theorem dispute_closed (r : Resolver) (job other : JobId) (employerWins : Bool) :
    (r.closed job employerWins).dispute other =
      if job = other then none else r.dispute other := by
  rw [dispute, disputes_closed]
  exact Table.get?_erase _ _ _

/-! ## The checks before a payment -/

theorem empanel_readOnly (env : Environment γ) (job : JobId) (bond : Amount) :
    ReadOnly (empanel env job bond) := by
  refine ReadOnly.state.bind fun before => ?_
  refine (ReadOnly.failIf _ _).bind fun _ => ?_
  refine (ReadOnly.failIf _ _).bind fun _ => ?_
  refine (ReadOnly.check _).bind fun jury => ?_
  exact (ReadOnly.failIf _ _).bind fun _ => ReadOnly.pure jury

theorem award_readOnly (env : Environment γ) (caller : Address) (job : JobId)
    (employerWins : Bool) : ReadOnly (award env caller job employerWins) := by
  refine ReadOnly.state.bind fun before => ?_
  refine (ReadOnly.check _).bind fun _ => ?_
  cases before.dispute job with
  | none => exact ReadOnly.throw _
  | some record =>
      refine ReadOnly.ite _ ?_ (ReadOnly.pure _)
      exact (ReadOnly.check _).bind fun employer => ReadOnly.pure _

/-- The bond is looked at first, then the job, and last the jury. -/
theorem run_empanel (env : Environment γ) (job : JobId) (bond : Amount) (site : Site Resolver γ) :
    ((empanel env job bond).run site).1 =
      if bond ≠ site.state.appealBond then .error (.incorrectBond site.state.appealBond bond)
      else if (site.state.dispute job).isSome then .error (.alreadyOpen job)
      else
        match env.jury job with
        | .error cause => .error (.collaborator cause)
        | .ok jury =>
          if jury.length < site.state.minJurySize then
            .error (.juryTooSmall site.state.minJurySize jury.length)
          else .ok jury := by
  by_cases hbond : bond ≠ site.state.appealBond
  · simp [empanel, hbond]
  by_cases hopen : (site.state.dispute job).isSome
  · simp [empanel, hbond, hopen]
  cases hjury : env.jury job with
  | error cause => simp [empanel, hbond, hopen, hjury, ask]
  | ok jury =>
      by_cases hsmall : jury.length < site.state.minJurySize <;>
        simp [empanel, hbond, hopen, hjury, ask, hsmall]

/-- A jury is found for the bond of the moment, for a job without a dispute, when the selection
answers with enough members. -/
theorem empanel_eq_ok {env : Environment γ} {job : JobId} {bond : Amount}
    {site : Site Resolver γ} {jury : List Address} :
    ((empanel env job bond).run site).1 = .ok jury ↔
      bond = site.state.appealBond ∧ site.state.dispute job = none ∧
        env.jury job = .ok jury ∧ site.state.minJurySize ≤ jury.length := by
  rw [run_empanel]
  by_cases hbond : bond = site.state.appealBond
  · cases hopen : site.state.dispute job with
    | some record => simp [hbond]
    | none =>
        cases hjury : env.jury job with
        | error cause => simp [hbond]
        | ok selected =>
            simp only [hbond, ne_eq, not_true, if_false, Option.isSome_none, Bool.false_eq_true,
              Except.ok.injEq, true_and]
            constructor
            · intro h
              split at h
              · cases h
              · next hlarge =>
                  cases h
                  exact ⟨rfl, Nat.le_of_not_lt hlarge⟩
            · rintro ⟨rfl, hlarge⟩
              rw [if_neg (Nat.not_lt.mpr hlarge)]
  · simp [hbond]

/-- The judge awards the bond of an open dispute to its appellant, or to the employer that is
looked up. -/
theorem award_eq_ok {env : Environment γ} {caller : Address} {job : JobId} {employerWins : Bool}
    {site : Site Resolver γ} {recipient : Address} {bond : Amount} :
    ((award env caller job employerWins).run site).1 = .ok (recipient, bond) ↔
      site.state.ensureJudge caller = .ok () ∧
        ∃ record, site.state.dispute job = some record ∧ bond = record.bond ∧
          if employerWins then env.employer job = .ok recipient
          else recipient = record.appellant := by
  cases hjudge : site.state.ensureJudge caller with
  | error cause => simp [award, hjudge]
  | ok passed =>
      cases hopen : site.state.dispute job with
      | none => simp [award, hjudge, hopen]
      | some record =>
          cases employerWins with
          | false => simp [award, hjudge, hopen, eq_comm, and_comm]
          | true =>
              cases hemployer : env.employer job <;>
                simp [award, hjudge, hopen, hemployer, ask, eq_comm, and_comm]

theorem eq_notJudge_of_ensureJudge {r : Resolver} {caller : Address} {cause : Error}
    (h : r.ensureJudge caller = .error cause) : cause = .notJudge caller := by
  simp only [ensureJudge] at h
  split at h
  · exact (Except.error.inj h).symm
  · cases h

/-- Before the payment only the look-up of the employer can fail for a collaborator's reason. -/
theorem award_eq_collaborator {env : Environment γ} {caller : Address} {job : JobId}
    {employerWins : Bool} {site : Site Resolver γ} {cause : CollaboratorError}
    (h : ((award env caller job employerWins).run site).1 = .error (.collaborator cause)) :
    employerWins = true ∧ env.employer job = .error cause := by
  cases hjudge : site.state.ensureJudge caller with
  | error refusal =>
      obtain rfl := eq_notJudge_of_ensureJudge hjudge
      simp [award, hjudge] at h
  | ok passed =>
      cases hopen : site.state.dispute job with
      | none => simp [award, hjudge, hopen] at h
      | some record =>
          cases employerWins with
          | false => simp [award, hjudge, hopen] at h
          | true =>
              cases hemployer : env.employer job with
              | error reason =>
                  have hcause : reason = cause := by
                    simpa [award, hjudge, hopen, hemployer, ask] using h
                  exact ⟨rfl, congrArg Except.error hcause⟩
              | ok employer => simp [award, hjudge, hopen, hemployer, ask] at h

/-! ## Payments and what follows them -/

/-- Where a site is left when a dispute is opened. -/
def afterOpening (site : Site Resolver γ) (ledger : γ) (job : JobId) (record : Record) :
    Site Resolver γ where
  state := site.state.opened job record
  outside := ledger
  events := site.events ++
    [.disputeRaised job record.appellant record.bond record.jury.length]
  readings := site.readings ++
    [.disputeRaised, .escrow (site.state.opened job record).escrowed]

/-- Where a site is left when a dispute is settled. -/
def afterClosing (site : Site Resolver γ) (ledger : γ) (job : JobId) (employerWins : Bool)
    (recipient : Address) (bond : Amount) : Site Resolver γ where
  state := site.state.closed job employerWins
  outside := ledger
  events := site.events ++ [.disputeResolved job employerWins recipient bond]
  readings := site.readings ++
    [.disputeResolved, .escrow (site.state.closed job employerWins).escrowed]

theorem run_raise (env : Environment γ) (caller : Address) (job : JobId) (bond : Amount)
    (site : Site Resolver γ) :
    (raise env caller job bond).run site =
      match ((empanel env job bond).run site).1 with
      | .error cause => (.error cause, site)
      | .ok jury =>
        match env.pay site.outside caller site.state.escrowAccount bond with
        | .error cause => (.error (.collaborator cause), site)
        | .ok ledger =>
          (.ok ⟨caller, bond, jury⟩, afterOpening site ledger job ⟨caller, bond, jury⟩) := by
  rw [raise, (empanel_readOnly env job bond).run_bind]
  cases ((empanel env job bond).run site).1 with
  | error cause => rfl
  | ok jury =>
      cases hpay : env.pay site.outside caller site.state.escrowAccount bond <;>
        simp [pay, hpay, ask, observeEscrow, afterOpening, opened]

theorem run_resolve (env : Environment γ) (caller : Address) (job : JobId) (employerWins : Bool)
    (site : Site Resolver γ) :
    (resolve env caller job employerWins).run site =
      match ((award env caller job employerWins).run site).1 with
      | .error cause => (.error cause, site)
      | .ok (recipient, bond) =>
        match env.pay site.outside site.state.escrowAccount recipient bond with
        | .error cause => (.error (.collaborator cause), site)
        | .ok ledger =>
          (.ok recipient, afterClosing site ledger job employerWins recipient bond) := by
  rw [resolve, (award_readOnly env caller job employerWins).run_bind]
  cases ((award env caller job employerWins).run site).1 with
  | error cause => rfl
  | ok awarded =>
      obtain ⟨recipient, bond⟩ := awarded
      cases hpay : env.pay site.outside site.state.escrowAccount recipient bond <;>
        simp [pay, hpay, ask, observeEscrow, afterClosing, closed]

end Resolver

/-! ## One step -/

/-- What an administrative operation changes, and the event that tells of it. -/
def Command.amendment : Command → Option ((Resolver → Resolver) × (Resolver → Event))
  | .transferAuthority new =>
    some (fun r => { r with authority := ⟨new⟩ },
      fun r => .authorityTransferred .disputes r.authority.holder new)
  | .setAppealBond bond =>
    some (fun r => { r with appealBond := bond }, fun _ => .appealBondUpdated bond)
  | .setMinJurySize size =>
    some (fun r => { r with minJurySize := size }, fun _ => .minJurySizeUpdated size)
  | .setJudge judge => some (fun r => { r with judge }, fun _ => .resolutionAuthorityUpdated judge)
  | .setJurySource juries => some (fun r => { r with juries }, fun _ => .validatorSelectorUpdated)
  | .setEmployerSource employers =>
    some (fun r => { r with employers }, fun _ => .employerLookupUpdated)
  | .raise _ _ | .abandonRaise _ _ | .resolve _ _ | .abandonResolve _ _ => none

theorem perform_of_amendment {env : Environment γ} {caller : Address} {command : Command}
    {change : Resolver → Resolver} {event : Resolver → Event}
    (h : command.amendment = some (change, event)) :
    Resolver.perform env caller command = settle (Resolver.administer caller change event) := by
  cases command <;> cases h <;> rfl

/-- Administration leaves the disputes, their counts and the escrow account as they are. -/
theorem keeps_of_amendment {command : Command} {change : Resolver → Resolver}
    {event : Resolver → Event} (h : command.amendment = some (change, event)) (r : Resolver) :
    (change r).disputes = r.disputes ∧ (change r).escrowAccount = r.escrowAccount ∧
      (change r).raised = r.raised ∧ (change r).wonByEmployer = r.wonByEmployer ∧
      (change r).wonByAppellant = r.wonByAppellant := by
  cases command <;> cases h <;> exact ⟨rfl, rfl, rfl, rfl, rfl⟩

/-- What one operation may do: how it ends, and where it leaves the site. -/
inductive Step (env : Environment γ) (caller : Address) (before : Site Resolver γ) :
    Command → Except Error Answer → Site Resolver γ → Prop
  | refused (command : Command) (cause : Error) :
      Step env caller before command (.error cause) before
  | abandonedRaise (job : JobId) (bond : Amount) :
      Step env caller before (.abandonRaise job bond) (.ok .abandoned) before
  | abandonedResolve (job : JobId) (employerWins : Bool) :
      Step env caller before (.abandonResolve job employerWins) (.ok .abandoned) before
  | amended {command : Command} {change : Resolver → Resolver} {event : Resolver → Event}
      (hcommand : command.amendment = some (change, event))
      (hauthority : before.state.ensureAuthority caller = .ok ()) :
      Step env caller before command (.ok .done)
        { before with
          state := change before.state, events := before.events ++ [event before.state] }
  | raised {job : JobId} {bond : Amount} {jury : List Address} {ledger : γ}
      (hbond : bond = before.state.appealBond)
      (hfree : before.state.dispute job = none)
      (hjury : env.jury job = .ok jury)
      (hsize : before.state.minJurySize ≤ jury.length)
      (hpay : env.pay before.outside caller before.state.escrowAccount bond = .ok ledger) :
      Step env caller before (.raise job bond) (.ok (.opened ⟨caller, bond, jury⟩))
        (Resolver.afterOpening before ledger job ⟨caller, bond, jury⟩)
  | resolved {job : JobId} {employerWins : Bool} {record : Record} {recipient : Address}
      {ledger : γ}
      (hjudge : before.state.ensureJudge caller = .ok ())
      (hopen : before.state.dispute job = some record)
      (hrecipient :
        if employerWins then env.employer job = .ok recipient else recipient = record.appellant)
      (hpay :
        env.pay before.outside before.state.escrowAccount recipient record.bond = .ok ledger) :
      Step env caller before (.resolve job employerWins) (.ok (.paid recipient))
        (Resolver.afterClosing before ledger job employerWins recipient record.bond)

theorem step_raise (env : Environment γ) (caller : Address) (job : JobId) (bond : Amount)
    (before : Site Resolver γ) :
    Step env caller before (.raise job bond)
      ((Resolver.perform env caller (.raise job bond)).run before).1
      ((Resolver.perform env caller (.raise job bond)).run before).2 := by
  rw [Resolver.perform, run_bind, Resolver.run_raise]
  cases hjury : ((Resolver.empanel env job bond).run before).1 with
  | error cause => exact .refused _ cause
  | ok jury =>
      obtain ⟨hbond, hfree, hselected, hsize⟩ := Resolver.empanel_eq_ok.mp hjury
      cases hpay : env.pay before.outside caller before.state.escrowAccount bond with
      | error cause => simpa [hpay] using Step.refused _ _
      | ok ledger => simpa [hpay] using Step.raised hbond hfree hselected hsize hpay

theorem step_resolve (env : Environment γ) (caller : Address) (job : JobId) (employerWins : Bool)
    (before : Site Resolver γ) :
    Step env caller before (.resolve job employerWins)
      ((Resolver.perform env caller (.resolve job employerWins)).run before).1
      ((Resolver.perform env caller (.resolve job employerWins)).run before).2 := by
  rw [Resolver.perform, run_bind, Resolver.run_resolve]
  cases haward : ((Resolver.award env caller job employerWins).run before).1 with
  | error cause => exact .refused _ cause
  | ok awarded =>
      obtain ⟨recipient, bond⟩ := awarded
      obtain ⟨hjudge, record, hopen, rfl, hrecipient⟩ := Resolver.award_eq_ok.mp haward
      cases hpay : env.pay before.outside before.state.escrowAccount recipient record.bond with
      | error cause => simpa [hpay] using Step.refused _ _
      | ok ledger => simpa [hpay] using Step.resolved hjudge hopen hrecipient hpay

theorem step_of_amendment (env : Environment γ) (caller : Address) {command : Command}
    {change : Resolver → Resolver} {event : Resolver → Event} (before : Site Resolver γ)
    (hcommand : command.amendment = some (change, event)) :
    Step env caller before command
      ((Resolver.perform env caller command).run before).1
      ((Resolver.perform env caller command).run before).2 := by
  rw [perform_of_amendment hcommand, settle, run_bind, Resolver.administer, run_amend]
  cases hauthority : before.state.ensureAuthority caller with
  | error cause => exact .refused _ cause
  | ok passed => exact .amended hcommand hauthority

theorem step_abandon {α : Type} {env : Environment γ} {caller : Address} {command : Command}
    {before : Site Resolver γ} {op : Operation Resolver γ Error α} (hop : ReadOnly op)
    (hcommand : Step env caller before command (.ok .abandoned) before) :
    Step env caller before command ((abandon op).run before).1 ((abandon op).run before).2 := by
  rw [abandon, hop.run_bind]
  cases (op.run before).1 with
  | error cause => exact .refused _ cause
  | ok a => exact hcommand

/-- Every operation takes one of the steps. -/
theorem perform_step (env : Environment γ) (caller : Address) (command : Command)
    (before : Site Resolver γ) :
    Step env caller before command
      ((Resolver.perform env caller command).run before).1
      ((Resolver.perform env caller command).run before).2 := by
  cases command with
  | raise job bond => exact step_raise env caller job bond before
  | resolve job employerWins => exact step_resolve env caller job employerWins before
  | abandonRaise job bond =>
      exact step_abandon (Resolver.empanel_readOnly env job bond) (.abandonedRaise job bond)
  | abandonResolve job employerWins =>
      exact step_abandon (Resolver.award_readOnly env caller job employerWins)
        (.abandonedResolve job employerWins)
  | transferAuthority new => exact step_of_amendment env caller before rfl
  | setAppealBond bond => exact step_of_amendment env caller before rfl
  | setMinJurySize size => exact step_of_amendment env caller before rfl
  | setJudge judge => exact step_of_amendment env caller before rfl
  | setJurySource juries => exact step_of_amendment env caller before rfl
  | setEmployerSource employers => exact step_of_amendment env caller before rfl

theorem subsystem_of_amendment {command : Command} {change : Resolver → Resolver}
    {event : Resolver → Event} (h : command.amendment = some (change, event)) (r : Resolver) :
    (event r).subsystem = .disputes := by
  cases command <;> cases h <;> rfl

/-- The events that a step adds are about disputes. -/
theorem Step.subsystem {env : Environment γ} {caller : Address} {command : Command}
    {answer : Except Error Answer} {before after : Site Resolver γ}
    (h : Step env caller before command answer after) :
    ∃ new, after.events = before.events ++ new ∧ ∀ event ∈ new, event.subsystem = .disputes := by
  cases h with
  | refused _ _ => exact ⟨[], (List.append_nil _).symm, by simp⟩
  | abandonedRaise _ _ => exact ⟨[], (List.append_nil _).symm, by simp⟩
  | abandonedResolve _ _ => exact ⟨[], (List.append_nil _).symm, by simp⟩
  | amended hcommand _ => exact ⟨_, rfl, by simpa using subsystem_of_amendment hcommand _⟩
  | raised _ _ _ _ _ => exact ⟨_, rfl, by simp [Event.subsystem]⟩
  | resolved _ _ _ _ => exact ⟨_, rfl, by simp [Event.subsystem]⟩

/-- An operation that fails leaves everything as it is. -/
theorem Step.eq_of_error {env : Environment γ} {caller : Address} {command : Command}
    {cause : Error} {before after : Site Resolver γ}
    (h : Step env caller before command (.error cause) after) : after = before := by
  cases h
  rfl

/-! ## Calls -/

/-- An operation with its caller, and with what the resolver works with at that time. -/
structure Call (γ : Type) where
  environment : Environment γ
  caller : Address
  command : Command

/-- Carries out a call. -/
def Call.perform (call : Call γ) : Operation Resolver γ Error Answer :=
  Resolver.perform call.environment call.caller call.command

end Integrity.Dispute
