import Integrity.Proofs.Ledger.Traffic
import Integrity.Proofs.Simulation.Review
import Integrity.Proofs.Validators.Rotation

/-! # Disputes of a demonstration

The appellant disputes a job and gets its bond back, or the employer gets it. Any of the parties may
be the same: an account that pays itself only gains, so that the bond can always be paid once the
appellant had it. -/

namespace Integrity

namespace Ledger

variable {ledger after : Ledger} {source target : Address} {amount : Amount}

/-- A payer that has the amount can pay whoever is not frozen and has room for it. -/
theorem exists_transfer (hfrozen : ledger.isFrozen target = false)
    (hsource : amount.units ≤ (ledger.balance source).units)
    (htarget : (ledger.balance target).units + amount.units ≤ maxWord64) :
    ∃ after, ledger.transfer source target amount = .ok after := by
  rw [transfer_eq, if_neg (Bool.eq_false_iff.mp hfrozen), if_neg (Nat.not_lt.mpr hsource),
    if_neg (Nat.not_lt.mpr htarget)]
  exact ⟨_, rfl⟩

/-- A transfer leaves nobody with more than the most before it and the amount together. -/
theorem balance_le_of_transfer (h : ledger.transfer source target amount = .ok after) {most : Nat}
    (hmost : ∀ account, (ledger.balance account).units ≤ most) (account : Address) :
    (after.balance account).units ≤ most + amount.units := by
  obtain ⟨-, remaining, credited, hremaining, hcredited, rfl⟩ := transfer_eq_ok.mp h
  have hsource := hmost source
  have htarget := hmost target
  have hother := hmost account
  rw [balance_write, balance_write]
  split
  · omega
  · split <;> omega

end Ledger

namespace Simulation.Demonstration

open Operation
open Dispute (Resolver)

/-! ## The bond -/

/-- A ledger that freezes nothing, in which the appellant has its funds and nobody more than the
most. -/
structure Funded (most : Nat) (ledger : Ledger) : Prop where
  thawed : ledger.frozen = []
  funds_le : funds.units ≤ (ledger.balance appellant).units
  le_most : ∀ account, (ledger.balance account).units ≤ most

/-- A bond that the appellant can pay goes through the escrow account to whoever is to have it. When
that is the appellant, it has its funds again. -/
theorem Funded.bond {most : Nat} {ledger : Ledger} (h : Funded most ledger) {bond : Amount}
    (hbond : bond.units ≤ funds.units) (hroom : most + 2 * bond.units ≤ maxWord64)
    (escrow recipient : Address) :
    ∃ held paid, ledger.transfer appellant escrow bond = .ok held ∧
      held.transfer escrow recipient bond = .ok paid ∧
      (recipient = appellant → Funded (most + 2 * bond.units) paid) := by
  have hthawed : ∀ account, ledger.isFrozen account = false := by
    intro account
    rw [Ledger.isFrozen, h.thawed]
    rfl
  have hescrow := h.le_most escrow
  obtain ⟨held, hheld⟩ := Ledger.exists_transfer (hthawed escrow)
    (Nat.le_trans hbond h.funds_le) (by omega)
  have hfrozen := Ledger.frozen_of_transfer hheld
  have hmost := Ledger.balance_le_of_transfer hheld h.le_most
  have hfilled := Ledger.balance_target_of_transfer hheld
  have hrecipient := hmost recipient
  obtain ⟨paid, hpaid⟩ : ∃ paid, held.transfer escrow recipient bond = .ok paid := by
    refine Ledger.exists_transfer ?_ (by omega) (by omega)
    rw [Ledger.isFrozen, hfrozen]
    exact hthawed recipient
  refine ⟨held, paid, hheld, hpaid, ?_⟩
  rintro rfl
  have hback := Ledger.balance_target_of_transfer hpaid
  refine ⟨?_, ?_, ?_⟩
  · rw [Ledger.frozen_of_transfer hpaid, hfrozen, h.thawed]
  · -- An appellant that is its own escrow account has gained, any other has what it had.
    by_cases hself : escrow = appellant
    · subst hself
      have hfunds := h.funds_le
      omega
    · have hpayer := Ledger.balance_source_of_transfer hheld hself
      have hfunds := h.funds_le
      omega
  · intro account
    have hle := Ledger.balance_le_of_transfer hpaid hmost account
    omega

/-! ## One dispute -/

/-- The resolver of a demonstration after disputes that ended with these verdicts, whether the
employer won. -/
def settled (config : Config) (verdicts : List Bool) : Resolver :=
  { Resolver.make config.disputes.authority config.disputeSettings .pool .registry with
    raised := verdicts.length
    wonByEmployer := verdicts.count true
    wonByAppellant := verdicts.count false }

theorem closed_opened_settled (config : Config) (verdicts : List Bool) (job : JobId)
    (record : Dispute.Record) (employerWins : Bool) :
    ((settled config verdicts).opened job record).closed job employerWins =
      settled config (verdicts ++ [employerWins]) := by
  have hdisputes : ((Table.empty : Table JobId Dispute.Record).insert job record).erase job =
      Table.empty := by
    simp [Table.empty, Table.insert, Table.erase, insertEntry, eraseEntry]
  cases employerWins <;>
    simp [settled, Resolver.opened, Resolver.closed, Resolver.countVerdict, Resolver.make,
      hdisputes]

theorem length_jury_settled (required : Nat) (job : JobId) :
    (ValidatorPool.jury ⟨validators, max required 1⟩ job).length = min (max required 1) 8 := by
  rw [ValidatorPool.length_jury]
  rfl

/-- An engine between two disputes. -/
structure Settled (config : Config) (verdicts : List Bool) (engine : Engine) : Prop where
  resolver : engine.disputes = some (settled config verdicts)
  pool : engine.collaborators.pool = ⟨validators, max config.disputes.minJurySize.toNat 1⟩
  registry : Employs engine.collaborators.registry jobs

section Settled

variable {config : Config} {verdicts : List Bool} {engine : Engine} {job : Nat}
  (clock : Clock) (now : Timestamp)

/-- A dispute needs a jury that the validators can form and a bond that the appellant can pay. -/
theorem Settled.of_runDispute (h : Settled config verdicts engine) {employerWins : Bool}
    {after : Engine} (hrun : runDispute clock config engine job employerWins = .ok after) :
    config.disputes.minJurySize.toNat ≤ 8 ∧
      config.disputes.appealBond.units ≤
        (engine.collaborators.ledger.balance appellant).units := by
  obtain ⟨⟨middle, answer⟩, hraise, -⟩ := Config.bind_eq_ok_iff.mp hrun
  obtain ⟨verdict, site, hopening⟩ := exists_run_of_perform (clock.raise job) h.resolver hraise
  cases Dispute.step_of_run hopening with
  | amended hcommand _ => cases hcommand
  | raised _ _ hjury hsize hpay =>
      have hselected := Except.ok.inj hjury
      rw [h.pool] at hselected
      obtain ⟨-, remaining, -, hremaining, -⟩ := Ledger.transfer_eq_ok.mp hpay
      constructor
      · rw [← hselected, length_jury_settled] at hsize
        change config.disputes.minJurySize.toNat ≤ _ at hsize
        omega
      · change (engine.collaborators.ledger.balance appellant).units = _ at hremaining
        omega

theorem Settled.raise (h : Settled config verdicts engine) {held : Ledger}
    (hheld : engine.collaborators.ledger.transfer appellant config.disputes.escrowAccount
      config.disputes.appealBond = .ok held)
    (hsize : config.disputes.minJurySize.toNat ≤ 8) (job : JobId) :
    ∃ (jury : List Address) (opened : Engine),
      perform now (.dispute appellant (.raise job config.disputes.appealBond)) engine =
        .ok (opened, .dispute (.opened ⟨appellant, config.disputes.appealBond, jury⟩)) ∧
      opened.disputes = some
        ((settled config verdicts).opened job ⟨appellant, config.disputes.appealBond, jury⟩) ∧
      opened.collaborators = { engine.collaborators with ledger := held } := by
  let env := Engine.disputeEnvironment engine.collaborators (settled config verdicts)
  let site := Site.start (settled config verdicts) engine.collaborators.ledger
  let jury := engine.collaborators.pool.jury job
  have hlarge : site.state.minJurySize ≤ jury.length := by
    simp only [jury, h.pool, length_jury_settled]
    change config.disputes.minJurySize.toNat ≤ _
    omega
  have hempanel : ((Resolver.empanel env job config.disputes.appealBond).run site).1 = .ok jury :=
    Resolver.empanel_eq_ok.mpr ⟨rfl, rfl, rfl, hlarge⟩
  have hpay : env.pay site.outside appellant site.state.escrowAccount config.disputes.appealBond =
      .ok held := hheld
  have hrun : (Resolver.perform env appellant (.raise job config.disputes.appealBond)).run site =
      (.ok (.opened ⟨appellant, config.disputes.appealBond, jury⟩),
        Resolver.afterOpening site held job ⟨appellant, config.disputes.appealBond, jury⟩) := by
    rw [Resolver.perform, run_bind, Resolver.run_raise]
    simp only [hempanel, hpay, run_pure]
  exact ⟨jury, _, perform_dispute now h.resolver hrun, rfl, rfl⟩

/-- The judge closes a dispute, and whoever won has the bond. -/
theorem perform_resolve {job : JobId} {jury : List Address} {paid : Ledger} {recipient : Address}
    {employerWins : Bool}
    (hr : engine.disputes = some
      ((settled config verdicts).opened job ⟨appellant, config.disputes.appealBond, jury⟩))
    (hjudge : config.disputes.judge.isNull = false)
    (hrecipient : if employerWins then
        engine.collaborators.registry.employerOf job = .ok recipient
      else recipient = appellant)
    (hpaid : engine.collaborators.ledger.transfer config.disputes.escrowAccount recipient
      config.disputes.appealBond = .ok paid) :
    ∃ after : Engine,
      perform now (.dispute config.disputes.judge (.resolve job employerWins)) engine =
        .ok (after, .dispute (.paid recipient)) ∧
      after.disputes = some (settled config (verdicts ++ [employerWins])) ∧
      after.collaborators = { engine.collaborators with ledger := paid } := by
  let record : Dispute.Record := ⟨appellant, config.disputes.appealBond, jury⟩
  let r := (settled config verdicts).opened job record
  let env := Engine.disputeEnvironment engine.collaborators r
  let site := Site.start r engine.collaborators.ledger
  have hpassed : r.ensureJudge config.disputes.judge = .ok () := by
    simp [Resolver.ensureJudge, r, Resolver.opened, settled, Resolver.make,
      Config.disputeSettings, hjudge]
  have hopen : r.dispute job = some record :=
    (Resolver.dispute_opened _ _ _ _).trans (if_pos rfl)
  have haward : ((Resolver.award env config.disputes.judge job employerWins).run site).1 =
      .ok (recipient, config.disputes.appealBond) :=
    Resolver.award_eq_ok.mpr ⟨hpassed, record, hopen, rfl, hrecipient⟩
  have hpay : env.pay site.outside site.state.escrowAccount recipient
      config.disputes.appealBond = .ok paid := hpaid
  have hrun : (Resolver.perform env config.disputes.judge (.resolve job employerWins)).run site =
      (.ok (.paid recipient), Resolver.afterClosing site paid job employerWins recipient
        config.disputes.appealBond) := by
    rw [Resolver.perform, run_bind, Resolver.run_resolve]
    simp only [haward, hpay, run_pure]
  refine ⟨_, perform_dispute now hr hrun, ?_, rfl⟩
  exact congrArg some (closed_opened_settled config verdicts job record employerWins)

/-- A dispute that has both ends as it is to end, and changes nothing but its own lane. -/
theorem Settled.runDispute (h : Settled config verdicts engine) {most : Nat}
    (hfunded : Funded most engine.collaborators.ledger)
    (hjudge : config.disputes.judge.isNull = false) (hjob : job ∈ jobs)
    (hsize : config.disputes.minJurySize.toNat ≤ 8)
    (hbond : config.disputes.appealBond.units ≤ funds.units)
    (hroom : most + 2 * config.disputes.appealBond.units ≤ maxWord64) (employerWins : Bool) :
    ∃ after, runDispute clock config engine job employerWins = .ok after ∧
      Settled config (verdicts ++ [employerWins]) after ∧
      (employerWins = false →
        Funded (most + 2 * config.disputes.appealBond.units) after.collaborators.ledger) ∧
      ∀ subsystem, Subsystem.disputes ≠ subsystem →
        after.lane subsystem = engine.lane subsystem := by
  let recipient := if employerWins then employer else appellant
  obtain ⟨held, paid, hheld, hpaid, hrestored⟩ :=
    hfunded.bond hbond hroom config.disputes.escrowAccount recipient
  obtain ⟨jury, opened, hraise, hopened, hwith⟩ := h.raise (clock.raise job) hheld hsize
    (JobId.ofNat job)
  have hrecipient : if employerWins then
      opened.collaborators.registry.employerOf (JobId.ofNat job) = .ok recipient
      else recipient = appellant := by
    cases employerWins with
    | false => exact rfl
    | true =>
        rw [hwith]
        exact h.registry job hjob
  obtain ⟨after, hresolve, hafter, hwithin⟩ := perform_resolve (clock.resolve job) hopened hjudge
    hrecipient (by rwa [hwith])
  have hcollaborators : after.collaborators = { engine.collaborators with ledger := paid } := by
    rw [hwithin, hwith]
  refine ⟨after, ?_, ⟨hafter, ?_, ?_⟩, ?_, ?_⟩
  · simp only [Demonstration.runDispute, hraise, hresolve, bind, Except.bind]
    rfl
  · rw [hcollaborators]
    exact h.pool
  · rw [hcollaborators]
    exact h.registry
  · rintro rfl
    rw [hcollaborators]
    exact hrestored rfl
  · intro subsystem hother
    exact (lane_of_perform (clock.resolve job) hresolve hother).trans
      (lane_of_perform (clock.raise job) hraise hother)

end Settled

end Simulation.Demonstration

end Integrity
