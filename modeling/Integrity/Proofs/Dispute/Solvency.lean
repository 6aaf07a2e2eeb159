import Integrity.Proofs.Dispute.Step
import Integrity.Proofs.Ledger.Traffic
import Integrity.Proofs.Operation.Run

/-! # Solvency of the escrow account

The escrow account holds at least the bonds of all open disputes, as long as only the resolver pays
out of it. An opening pays a bond in and a settlement pays the same bond out, even where the other
party is the escrow account itself; everything else leaves the disputes alone and the account no
poorer. -/

namespace Integrity.Dispute

open Operation

/-! ## The bonds of the open disputes -/

namespace Resolver

/-- The units of the bonds of all open disputes together. -/
def bonds (r : Resolver) : Nat :=
  r.disputes.total fun record => record.bond.units

theorem bonds_opened {r : Resolver} {job : JobId} (hfree : r.dispute job = none)
    (record : Record) : (r.opened job record).bonds = r.bonds + record.bond.units := by
  have h := Table.total_insert (fun record : Record => record.bond.units) r.disputes job record
  rw [dispute] at hfree
  rw [hfree] at h
  exact h

theorem bonds_closed {r : Resolver} {job : JobId} {record : Record}
    (hopen : r.dispute job = some record) (employerWins : Bool) :
    (r.closed job employerWins).bonds + record.bond.units = r.bonds := by
  have h := Table.total_erase (fun record : Record => record.bond.units) r.disputes job
  rw [dispute] at hopen
  rw [hopen] at h
  rw [bonds, disputes_closed]
  exact h

theorem units_foldl_saturatingAdd (entries : List (JobId × Record)) (start : Amount) :
    ((entries.map Prod.snd).foldl
        (fun total record => total.saturatingAdd record.bond) start).units =
      min (start.units + totalEntries (fun record => record.bond.units) entries) maxWord64 := by
  induction entries generalizing start with
  | nil =>
      have hstart := start.units_le
      simp only [List.map_nil, List.foldl_nil, totalEntries, List.foldr_nil]
      omega
  | cons entry rest ih =>
      simp only [List.map_cons, List.foldl_cons, ih, Amount.units_saturatingAdd, totalEntries,
        List.foldr_cons]
      omega

/-- What is shown of the bonds is their sum, up to the largest amount. -/
theorem units_escrowed (r : Resolver) : r.escrowed.units = min r.bonds maxWord64 := by
  have h := units_foldl_saturatingAdd r.disputes.entries Amount.zero
  rwa [Amount.zero, Nat.zero_add] at h

end Resolver

/-! ## A resolver and the ledger that holds its bonds -/

/-- A resolver whose bonds are paid in a ledger that is kept in memory. -/
def Environment.overLedger (jury : JobId → Except CollaboratorError (List Address))
    (employer : JobId → Except CollaboratorError Address) : Environment Ledger :=
  ⟨jury, employer, Ledger.transfer⟩

/-- What may happen: an operation of the resolver, with what its collaborators answer at that time,
or traffic of the ledger beside it. -/
inductive Move where
  | operate (jury : JobId → Except CollaboratorError (List Address))
      (employer : JobId → Except CollaboratorError Address) (caller : Address)
      (command : Command)
  | traffic (item : Ledger.Traffic)

/-- What a move does. -/
def Move.perform : Move → Operation Resolver Ledger Error Answer
  | .operate jury employer caller command =>
    Resolver.perform (.overLedger jury employer) caller command
  | .traffic item => settle (call fun ledger => Resolver.ask (ledger.accept item))

theorem Move.run_traffic (item : Ledger.Traffic) (site : Site Resolver Ledger) :
    (Move.traffic item).perform.run site =
      match site.outside.accept item with
      | .ok ledger => (.ok .done, { site with outside := ledger })
      | .error cause => (.error (.collaborator cause), site) := by
  cases haccept : site.outside.accept item <;> simp [perform, settle, haccept, Resolver.ask]

/-- A move that is no direct transfer out of an account. -/
def Move.Spares (account : Address) : Move → Prop
  | .operate _ _ _ _ => True
  | .traffic item => item.Spares account

/-! ## The invariant -/

/-- The bonds of the open disputes are covered by the escrow account. -/
structure Solvent (escrow : Address) (site : Site Resolver Ledger) : Prop where
  escrowAccount : site.state.escrowAccount = escrow
  covered : site.state.bonds ≤ (site.outside.balance escrow).units

theorem solvent_start (authority : Address) (settings : Settings) (juries : JurySource)
    (employers : EmployerSource) (ledger : Ledger) :
    Solvent settings.escrowAccount
      (Site.start (Resolver.make authority settings juries employers) ledger) :=
  ⟨rfl, Nat.zero_le _⟩

theorem Solvent.step {escrow caller : Address}
    {jury : JobId → Except CollaboratorError (List Address)}
    {employer : JobId → Except CollaboratorError Address} {command : Command}
    {answer : Except Error Answer} {before after : Site Resolver Ledger}
    (h : Solvent escrow before)
    (hstep : Step (.overLedger jury employer) caller before command answer after) :
    Solvent escrow after := by
  obtain ⟨rfl, hcovered⟩ := h
  cases hstep with
  | refused _ cause => exact ⟨rfl, hcovered⟩
  | abandonedRaise job bond => exact ⟨rfl, hcovered⟩
  | abandonedResolve job employerWins => exact ⟨rfl, hcovered⟩
  | amended hcommand _ =>
      obtain ⟨hdisputes, hescrow, -⟩ := keeps_of_amendment hcommand before.state
      refine ⟨hescrow, ?_⟩
      simp only [Resolver.bonds, hdisputes]
      exact hcovered
  | @raised job bond jury ledger _ hfree _ _ hpay =>
      refine ⟨rfl, ?_⟩
      have hbalance := Ledger.balance_target_of_transfer hpay
      simp only [Resolver.afterOpening, Resolver.bonds_opened hfree]
      omega
  | @resolved job employerWins record recipient ledger _ hopen _ hpay =>
      refine ⟨Resolver.escrowAccount_closed _ _ _, ?_⟩
      have hbonds := Resolver.bonds_closed hopen employerWins
      simp only [Resolver.afterClosing]
      -- The escrow account may be the one that is paid; then the transfer leaves it richer.
      by_cases hself : recipient = before.state.escrowAccount
      · subst hself
        have hbalance := Ledger.balance_target_of_transfer hpay
        omega
      · have hbalance := Ledger.balance_source_of_transfer hpay hself
        omega

theorem Solvent.traffic {escrow : Address} {item : Ledger.Traffic}
    {before : Site Resolver Ledger} (h : Solvent escrow before) (hspares : item.Spares escrow) :
    Solvent escrow ((Move.traffic item).perform.run before).2 := by
  rw [Move.run_traffic]
  cases haccept : before.outside.accept item with
  | error cause => exact h
  | ok ledger =>
      have hbalance := Ledger.balance_le_of_accept hspares haccept
      exact ⟨h.escrowAccount, Nat.le_trans h.covered hbalance⟩

/-- Every move that is no direct transfer out of the escrow account keeps it solvent. -/
theorem Solvent.perform {escrow : Address} {move : Move} {before : Site Resolver Ledger}
    (h : Solvent escrow before) (hspares : move.Spares escrow) :
    Solvent escrow (move.perform.run before).2 := by
  cases move with
  | operate jury employer caller command => exact h.step (perform_step _ caller command before)
  | traffic item => exact h.traffic hspares

/-! ## What solvency gives -/

theorem Solvent.units_escrowed {escrow : Address} {site : Site Resolver Ledger}
    (h : Solvent escrow site) : site.state.escrowed.units = site.state.bonds := by
  have hcovered := h.covered
  have hfits := (site.outside.balance escrow).units_le
  rw [Resolver.units_escrowed]
  omega

theorem Resolver.bond_le_bonds {r : Resolver} {job : JobId} {record : Record}
    (hopen : r.dispute job = some record) : record.bond.units ≤ r.bonds := by
  have h := bonds_closed hopen true
  omega

/-- While the escrow account is solvent, a settlement fails for want of funds only when the look-up
of the employer answers so. -/
theorem Solvent.employer_of_resolve {escrow caller account : Address}
    {jury : JobId → Except CollaboratorError (List Address)}
    {employer : JobId → Except CollaboratorError Address} {job : JobId} {employerWins : Bool}
    {needed available : Amount} {site : Site Resolver Ledger} (h : Solvent escrow site)
    (hrun : ((Resolver.perform (.overLedger jury employer) caller
        (.resolve job employerWins)).run site).1 =
      .error (.collaborator (.insufficientFunds account needed available))) :
    employerWins = true ∧ employer job = .error (.insufficientFunds account needed available) := by
  rw [Resolver.perform, run_bind, Resolver.run_resolve] at hrun
  cases haward :
      ((Resolver.award (.overLedger jury employer) caller job employerWins).run site).1 with
  | error cause =>
      rw [haward] at hrun
      cases hrun
      exact Resolver.award_eq_collaborator haward
  | ok awarded =>
      obtain ⟨recipient, bond⟩ := awarded
      obtain ⟨-, record, hopen, rfl, -⟩ := Resolver.award_eq_ok.mp haward
      have hbond := Resolver.bond_le_bonds hopen
      have hcovered := h.covered
      rw [haward] at hrun
      cases hpay : site.outside.transfer site.state.escrowAccount recipient record.bond with
      | error cause =>
          simp only [Environment.overLedger, hpay] at hrun
          cases hrun
          have hshort := Ledger.lt_of_transfer_eq_insufficientFunds hpay
          rw [h.escrowAccount] at hshort
          omega
      | ok ledger => simp [Environment.overLedger, hpay] at hrun

theorem employer_ne_insufficientFunds (employers : EmployerSource) (registry : JobRegistry)
    (job : JobId) (account : Address) (needed available : Amount) :
    employers.employer registry job ≠ .error (.insufficientFunds account needed available) := by
  cases employers with
  | registry =>
      simp only [EmployerSource.employer, JobRegistry.employerOf]
      cases registry.employers.get? job <;> simp
  | fixed employer => simp [EmployerSource.employer]
  | unavailable reason => simp [EmployerSource.employer]

/-- Whatever is done with a new resolver and its ledger, short of direct transfers out of the escrow
account: the account covers the bonds of the open disputes, what is shown of them is their sum, and
no settlement fails for want of funds unless the look-up of the employer answers so, which none of
the sources of employers does. -/
theorem bonds_le_balance_play (authority : Address) (settings : Settings) (juries : JurySource)
    (employers : EmployerSource) (ledger : Ledger) (moves : List Move)
    (hmoves : ∀ move ∈ moves, move.Spares settings.escrowAccount) :
    let site := (Site.start (Resolver.make authority settings juries employers) ledger).play
      Move.perform moves
    site.state.bonds ≤ (site.outside.balance settings.escrowAccount).units ∧
      site.state.stats.escrowed.units = site.state.bonds ∧
      (∀ jury employer caller job employerWins account needed available,
        ((Resolver.perform (.overLedger jury employer) caller
            (.resolve job employerWins)).run site).1 =
          .error (.collaborator (.insufficientFunds account needed available)) →
        employerWins = true ∧
          employer job = .error (.insufficientFunds account needed available)) ∧
      ∀ jury registry caller job employerWins account needed available,
        ((Resolver.perform (.overLedger jury (site.state.employers.employer registry)) caller
            (.resolve job employerWins)).run site).1 ≠
          .error (.collaborator (.insufficientFunds account needed available)) := by
  intro site
  have hsolvent : Solvent settings.escrowAccount site :=
    Site.play_induction (solvent_start authority settings juries employers ledger)
      fun move hmove _ hbefore => hbefore.perform (hmoves move hmove)
  refine ⟨hsolvent.covered, hsolvent.units_escrowed, ?_, ?_⟩
  · intro jury employer caller job employerWins account needed available hrun
    exact hsolvent.employer_of_resolve hrun
  · intro jury registry caller job employerWins account needed available hrun
    obtain ⟨-, hemployer⟩ := hsolvent.employer_of_resolve hrun
    exact employer_ne_insufficientFunds _ registry job account needed available hemployer

/-- A dispute is open while the appellant has paid its bond and the escrow account, frozen since,
holds exactly that. -/
theorem bonds_le_balance_play_open :
    let escrow := Address.filled 0xE5
    let appellant := Address.filled 0xAB
    let bond := Amount.ofNat 10
    let settings : Settings := ⟨bond, 0, Address.filled 0x1D, escrow⟩
    let moves : List Move := [
      .traffic (.credit appellant bond),
      .operate (fun _ => .ok []) (fun job => .error (.unknownJob job)) appellant
        (.raise (JobId.ofNat 7) bond),
      .traffic (.freeze escrow)]
    let site := (Site.start (Resolver.make Address.null settings .pool .registry)
      Ledger.empty).play Move.perform moves
    (∀ move ∈ moves, move.Spares escrow) ∧ site.state.bonds = 10 ∧
      site.state.bonds ≤ (site.outside.balance escrow).units := by
  intro escrow appellant bond settings moves site
  have hmoves : ∀ move ∈ moves, move.Spares escrow := by
    simp [moves, Move.Spares, Ledger.Traffic.Spares]
  refine ⟨hmoves, by decide, ?_⟩
  exact (bonds_le_balance_play Address.null settings .pool .registry Ledger.empty moves hmoves).1

end Integrity.Dispute
