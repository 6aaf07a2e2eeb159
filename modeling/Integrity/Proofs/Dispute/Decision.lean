import Integrity.Proofs.Dispute.Solvency
import Integrity.Proofs.Validators.Rotation

/-! # How appeals are decided

The checks of an appeal come in a fixed order: the bond, the job, the jury, and last the payment,
which has an order of its own. The first that applies decides, and nothing has been touched by
then; what passes them all is done as a whole. -/

namespace Integrity.Dispute

open Operation

/-! ## Appeals -/

/-- A resolver whose juries come from a pool and whose bonds are paid in a ledger, both kept in
memory. -/
def Environment.overPool (pool : ValidatorPool)
    (employer : JobId → Except CollaboratorError Address) : Environment Ledger :=
  .overLedger (JurySource.pool.jury pool) employer

/-- Somebody disputes a job, and attaches an amount. -/
structure Appeal where
  appellant : Address
  job : JobId
  attached : Amount

/-- What becomes of an appeal. -/
inductive Verdict where
  | refused (cause : Error)
  | opened
deriving DecidableEq

namespace Appeal

variable (appeal : Appeal) (pool : ValidatorPool)

def command : Command :=
  .raise appeal.job appeal.attached

/-- The dispute of the job, if it is opened. -/
def record : Record :=
  ⟨appeal.appellant, appeal.attached, pool.jury appeal.job⟩

/-- The first ground that applies decides. -/
def verdict (r : Resolver) (ledger : Ledger) : Verdict :=
  let seated := min pool.jurySize pool.validators.length
  let available := ledger.balance appeal.appellant
  if appeal.attached ≠ r.appealBond then .refused (.incorrectBond r.appealBond appeal.attached)
  else if (r.dispute appeal.job).isSome then .refused (.alreadyOpen appeal.job)
  else if seated < r.minJurySize then .refused (.juryTooSmall r.minJurySize seated)
  else if ledger.isFrozen r.escrowAccount = true then
    .refused (.collaborator (.recipientFrozen r.escrowAccount))
  else if available.units < appeal.attached.units then
    .refused (.collaborator (.insufficientFunds appeal.appellant appeal.attached available))
  else if maxWord64 < (ledger.balance r.escrowAccount).units + appeal.attached.units then
    .refused (.collaborator (.balanceOverflow r.escrowAccount))
  else .opened

/-- The ledger after the appellant has paid. -/
def paid (r : Resolver) (ledger : Ledger) : Ledger :=
  (ledger.write appeal.appellant
      ((ledger.balance appeal.appellant).monus appeal.attached)).write r.escrowAccount
    ((ledger.balance r.escrowAccount).saturatingAdd appeal.attached)

variable {appeal pool}

theorem verdict_eq_opened {r : Resolver} {ledger : Ledger} :
    appeal.verdict pool r ledger = .opened ↔
      appeal.attached = r.appealBond ∧ r.dispute appeal.job = none ∧
        r.minJurySize ≤ min pool.jurySize pool.validators.length ∧
        ledger.isFrozen r.escrowAccount = false ∧
        appeal.attached.units ≤ (ledger.balance appeal.appellant).units ∧
        (ledger.balance r.escrowAccount).units + appeal.attached.units ≤ maxWord64 := by
  rw [verdict]
  split_ifs with hbond hopen hsmall hfrozen hshort hover
  all_goals simp only [false_iff, true_iff]
  · exact fun h => hbond h.1
  · exact fun h => by simp [h.2.1] at hopen
  · exact fun h => absurd h.2.2.1 (Nat.not_le.mpr hsmall)
  · exact fun h => by simp [h.2.2.2.1] at hfrozen
  · exact fun h => absurd h.2.2.2.2.1 (Nat.not_le.mpr hshort)
  · exact fun h => absurd h.2.2.2.2.2 (Nat.not_le.mpr hover)
  · exact ⟨not_not.mp hbond, Option.not_isSome_iff_eq_none.mp hopen, Nat.le_of_not_lt hsmall,
      eq_false_of_ne_true hfrozen, Nat.le_of_not_lt hshort, Nat.le_of_not_lt hover⟩

/-- What passes every check can be paid. -/
theorem transfer_of_verdict {r : Resolver} {ledger : Ledger}
    (h : appeal.verdict pool r ledger = .opened) :
    ledger.transfer appeal.appellant r.escrowAccount appeal.attached =
      .ok (appeal.paid r ledger) := by
  obtain ⟨-, -, -, hfrozen, hfunds, hfits⟩ := verdict_eq_opened.mp h
  rw [Ledger.transfer_eq, hfrozen, if_neg (by decide), if_neg (Nat.not_lt.mpr hfunds),
    if_neg (Nat.not_lt.mpr hfits), paid]

end Appeal

/-- What the opening of a dispute does. -/
structure Opens (job : JobId) (record : Record) (before after : Site Resolver Ledger) : Prop where
  dispute : ∀ other, after.state.dispute other =
    if other = job then some record else before.state.dispute other
  state : after.state =
    { before.state with
      disputes := after.state.disputes, raised := before.state.raised + 1 }
  debited : record.appellant ≠ before.state.escrowAccount →
    (after.outside.balance record.appellant).units + record.bond.units =
      (before.outside.balance record.appellant).units
  credited : (after.outside.balance before.state.escrowAccount).units =
    (before.outside.balance before.state.escrowAccount).units + record.bond.units
  others : ∀ account, account ≠ record.appellant → account ≠ before.state.escrowAccount →
    after.outside.balance account = before.outside.balance account
  frozen : after.outside.frozen = before.outside.frozen
  events : after.events = before.events ++
    [.disputeRaised job record.appellant record.bond record.jury.length]
  readings : after.readings = before.readings ++
    [.disputeRaised, .escrow after.state.escrowed]

/-- How an appeal is answered, and where it leaves the site, after each verdict. -/
inductive Carried (appeal : Appeal) (pool : ValidatorPool) (before : Site Resolver Ledger) :
    Verdict → Except Error Answer → Site Resolver Ledger → Prop
  | refused (cause : Error) : Carried appeal pool before (.refused cause) (.error cause) before
  | opened {after : Site Resolver Ledger}
      (h : Opens appeal.job (appeal.record pool) before after) :
      Carried appeal pool before .opened (.ok (.opened (appeal.record pool))) after

/-! ## From the checks to the verdict -/

/-- An appeal is refused with nothing changed, or the bond is paid and the dispute opened. -/
theorem run_appeal (pool : ValidatorPool) (employer : JobId → Except CollaboratorError Address)
    (appeal : Appeal) (site : Site Resolver Ledger) :
    (Resolver.perform (.overPool pool employer) appeal.appellant appeal.command).run site =
      match appeal.verdict pool site.state site.outside with
      | .refused cause => (.error cause, site)
      | .opened =>
        (.ok (.opened (appeal.record pool)),
          Resolver.afterOpening site (appeal.paid site.state site.outside) appeal.job
            (appeal.record pool)) := by
  have hjury : (Environment.overPool pool employer).jury appeal.job = .ok (pool.jury appeal.job) :=
    rfl
  have hpay : (Environment.overPool pool employer).pay = Ledger.transfer := rfl
  simp only [Appeal.command, Resolver.perform, run_bind, Resolver.run_raise, Resolver.run_empanel,
    hjury, pool.length_jury, hpay, Ledger.transfer_eq, Appeal.verdict]
  split_ifs <;> rfl

theorem opens_afterOpening {job : JobId} {record : Record} {site : Site Resolver Ledger}
    {ledger : Ledger}
    (hpay : site.outside.transfer record.appellant site.state.escrowAccount record.bond =
      .ok ledger) :
    Opens job record site (Resolver.afterOpening site ledger job record) := by
  constructor
  case dispute =>
    intro other
    rw [Resolver.afterOpening, Resolver.dispute_opened]
    exact if_congr eq_comm rfl rfl
  case state => rfl
  case debited =>
    intro hother
    exact Ledger.balance_source_of_transfer hpay hother.symm
  case credited => exact Ledger.balance_target_of_transfer hpay
  case others =>
    intro account hsource htarget
    exact Ledger.balance_of_transfer_of_ne hpay hsource.symm htarget.symm
  case frozen => exact Ledger.frozen_of_transfer hpay
  case events => rfl
  case readings => rfl

/-- An appeal to a resolver that works with any pool of validators and any ledger is decided on the
first ground that applies, and carried out as decided: a refusal leaves everything as it was, and an
opening moves the bond from the appellant to the escrow account, seats the jury of the pool and adds
one event. -/
theorem appeal_decided (pool : ValidatorPool)
    (employer : JobId → Except CollaboratorError Address) (appeal : Appeal)
    (site : Site Resolver Ledger) :
    let outcome := (Resolver.perform (.overPool pool employer) appeal.appellant
      appeal.command).run site
    Carried appeal pool site (appeal.verdict pool site.state site.outside) outcome.1
      outcome.2 := by
  intro outcome
  simp only [outcome, run_appeal]
  cases hverdict : appeal.verdict pool site.state site.outside with
  | refused cause => exact .refused cause
  | opened => exact .opened (opens_afterOpening (Appeal.transfer_of_verdict hverdict))

end Integrity.Dispute
