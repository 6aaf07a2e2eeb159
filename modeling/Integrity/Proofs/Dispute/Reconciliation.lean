import Integrity.Proofs.Dispute.Solvency
import Integrity.Proofs.Ledger.Conservation
import Integrity.Proofs.Tally
import Mathlib.Data.List.Induction

/-! # Reconciliation of the events about disputes with the ledger

Each bond that is moved is told of by one event, with the account on the other side and the amount
that was collected when the dispute was opened. So the balance of every account can be worked out
from its credits and the events, and that of the escrow account from its credits and the disputes
that are open. -/

namespace Integrity

/-! ## Bonds that events tell of -/

/-- The units of the bond that an account paid, going by an event. -/
def Event.bondFrom (account : Address) : Event → Nat
  | .disputeRaised _ appellant bond _ => if appellant = account then bond.units else 0
  | _ => 0

/-- The units of the bond that was paid to an account, going by an event. -/
def Event.bondTo (account : Address) : Event → Nat
  | .disputeResolved _ _ recipient bond => if recipient = account then bond.units else 0
  | _ => 0

namespace Ledger

/-- The units that a credit issues to an account, if it is accepted. -/
def creditedTo (account : Address) (ledger : Ledger) : Traffic → Nat
  | .credit payee amount =>
    if payee = account then ledger.credited (.credit payee amount) else 0
  | _ => 0

/-- Without transfers only credits move a balance. -/
theorem balance_step (ledger : Ledger) {traffic : Traffic}
    (htraffic : ∀ source target amount, traffic ≠ .transfer source target amount)
    (account : Address) :
    ((ledger.step traffic).balance account).units =
      (ledger.balance account).units + ledger.creditedTo account traffic := by
  cases traffic with
  | transfer source target amount => exact absurd rfl (htraffic source target amount)
  | freeze frozen => rfl
  | thaw thawed => rfl
  | credit payee amount =>
      cases hcredit : ledger.credit payee amount with
      | error cause =>
          simp [step, accept, hcredit, creditedTo, credited, Except.isOk, Except.toBool]
      | ok after =>
          obtain ⟨updated, hupdated, rfl⟩ := credit_eq_ok.mp hcredit
          simp only [step, accept, hcredit, creditedTo, credited, balance_write]
          by_cases haccount : payee = account
          · subst haccount
            simp [hupdated, Except.isOk, Except.toBool]
          · simp [haccount]

end Ledger

namespace Dispute

/-! ## What a run credits, and whom it pays -/

/-- The units that a move credits to an account. -/
def Move.credits (account : Address) (before : Site Resolver Ledger) : Move → Nat
  | .operate _ _ _ _ => 0
  | .traffic item => before.outside.creditedTo account item

/-- The units that a run credits to an account. -/
def creditsAlong (account : Address) (start : Site Resolver Ledger) (moves : List Move) : Nat :=
  tally (fun (before, move) => move.credits account before) (start.history Move.perform moves)

theorem creditsAlong_concat (account : Address) (start : Site Resolver Ledger)
    (moves : List Move) (move : Move) :
    creditsAlong account start (moves ++ [move]) =
      creditsAlong account start moves +
        move.credits account (start.play Move.perform moves) := by
  simp [creditsAlong, Site.history_concat]

/-- Whether an operation ended with a dispute that an account raised, or a bond that it was paid. -/
def involves (account : Address) : Except Error Answer → Bool
  | .ok (.opened record) => record.appellant = account
  | .ok (.paid recipient) => recipient = account
  | _ => false

theorem Move.run_traffic_snd (item : Ledger.Traffic) (site : Site Resolver Ledger) :
    ((Move.traffic item).perform.run site).2 =
      { site with outside := site.outside.step item } := by
  rw [run_traffic, Ledger.step]
  cases site.outside.accept item <;> rfl

/-! ## The invariant -/

/-- The balances agree with the balances at the start, the credits since and the events. -/
structure Reconciled (escrow : Address) (ledger : Ledger) (credits : Address → Nat)
    (site : Site Resolver Ledger) : Prop where
  escrowAccount : site.state.escrowAccount = escrow
  held : (site.outside.balance escrow).units =
    (ledger.balance escrow).units + credits escrow + site.state.bonds
  others : ∀ account, account ≠ escrow →
    (site.outside.balance account).units + tally (Event.bondFrom account) site.events =
      (ledger.balance account).units + credits account +
        tally (Event.bondTo account) site.events

variable {escrow : Address} {ledger : Ledger} {credits : Address → Nat}

theorem bonds_of_amendment {command : Command} {change : Resolver → Resolver}
    {event : Resolver → Event} (h : command.amendment = some (change, event)) (r : Resolver)
    (account : Address) :
    (event r).bondFrom account = 0 ∧ (event r).bondTo account = 0 := by
  cases command <;> cases h <;> exact ⟨rfl, rfl⟩

theorem Reconciled.amended {before : Site Resolver Ledger}
    (h : Reconciled escrow ledger credits before) {command : Command}
    {change : Resolver → Resolver} {event : Resolver → Event}
    (hcommand : command.amendment = some (change, event)) :
    Reconciled escrow ledger credits
      { before with
        state := change before.state, events := before.events ++ [event before.state] } := by
  obtain ⟨hdisputes, hescrow, -⟩ := keeps_of_amendment hcommand before.state
  constructor
  case escrowAccount => exact hescrow.trans h.escrowAccount
  case held =>
    simp only [Resolver.bonds, hdisputes]
    exact h.held
  case others =>
    intro account haccount
    obtain ⟨hfrom, hto⟩ := bonds_of_amendment hcommand before.state account
    simpa [hfrom, hto] using h.others account haccount

theorem Reconciled.opened {before : Site Resolver Ledger}
    (h : Reconciled escrow ledger credits before) {job : JobId} {record : Record}
    {after : Ledger} (hfree : before.state.dispute job = none)
    (happellant : record.appellant ≠ escrow)
    (hpay : before.outside.transfer record.appellant escrow record.bond = .ok after) :
    Reconciled escrow ledger credits (Resolver.afterOpening before after job record) := by
  have htarget := Ledger.balance_target_of_transfer hpay
  have hsource := Ledger.balance_source_of_transfer hpay happellant.symm
  constructor
  case escrowAccount => exact h.escrowAccount
  case held =>
    have hheld := h.held
    simp only [Resolver.afterOpening, Resolver.bonds_opened hfree]
    omega
  case others =>
    intro account haccount
    have hothers := h.others account haccount
    simp only [Resolver.afterOpening, tally_append, tally_cons, tally_nil, Event.bondFrom,
      Event.bondTo]
    by_cases hpayer : record.appellant = account
    · subst hpayer
      rw [if_pos rfl]
      omega
    · have hsame := Ledger.balance_of_transfer_of_ne hpay hpayer haccount.symm
      rw [if_neg hpayer, hsame]
      omega

theorem Reconciled.closed {before : Site Resolver Ledger}
    (h : Reconciled escrow ledger credits before) {job : JobId} {employerWins : Bool}
    {record : Record} {recipient : Address} {after : Ledger}
    (hopen : before.state.dispute job = some record) (hrecipient : recipient ≠ escrow)
    (hpay : before.outside.transfer escrow recipient record.bond = .ok after) :
    Reconciled escrow ledger credits
      (Resolver.afterClosing before after job employerWins recipient record.bond) := by
  have htarget := Ledger.balance_target_of_transfer hpay
  have hsource := Ledger.balance_source_of_transfer hpay hrecipient
  constructor
  case escrowAccount => exact (Resolver.escrowAccount_closed _ _ _).trans h.escrowAccount
  case held =>
    have hheld := h.held
    have hbonds := Resolver.bonds_closed hopen employerWins
    simp only [Resolver.afterClosing]
    omega
  case others =>
    intro account haccount
    have hothers := h.others account haccount
    simp only [Resolver.afterClosing, tally_append, tally_cons, tally_nil, Event.bondFrom,
      Event.bondTo]
    by_cases hpayee : recipient = account
    · subst hpayee
      rw [if_pos rfl]
      omega
    · have hsame := Ledger.balance_of_transfer_of_ne hpay haccount.symm hpayee
      rw [if_neg hpayee, hsame]
      omega

/-- Every operation keeps the balances reconciled, if the escrow account is not the other side. -/
theorem Reconciled.step {caller : Address}
    {jury : JobId → Except CollaboratorError (List Address)}
    {employer : JobId → Except CollaboratorError Address} {command : Command}
    {answer : Except Error Answer} {before after : Site Resolver Ledger}
    (h : Reconciled escrow ledger credits before)
    (hstep : Step (.overLedger jury employer) caller before command answer after)
    (hanswer : involves escrow answer = false) :
    Reconciled escrow ledger credits after := by
  cases hstep with
  | refused _ cause => exact h
  | abandonedRaise job bond => exact h
  | abandonedResolve job employerWins => exact h
  | amended hcommand _ => exact h.amended hcommand
  | raised _ hfree _ _ hpay =>
      rw [h.escrowAccount] at hpay
      exact h.opened hfree (of_decide_eq_false hanswer) hpay
  | resolved _ hopen _ hpay =>
      rw [h.escrowAccount] at hpay
      exact h.closed hopen (of_decide_eq_false hanswer) hpay

theorem Reconciled.traffic {before : Site Resolver Ledger}
    (h : Reconciled escrow ledger credits before) {item : Ledger.Traffic}
    (hitem : ∀ source target amount, item ≠ .transfer source target amount) :
    Reconciled escrow ledger
      (fun account => credits account + before.outside.creditedTo account item)
      ((Move.traffic item).perform.run before).2 := by
  rw [Move.run_traffic_snd]
  constructor
  case escrowAccount => exact h.escrowAccount
  case held =>
    have hheld := h.held
    have hbalance := Ledger.balance_step before.outside hitem escrow
    simp only
    omega
  case others =>
    intro account haccount
    have hothers := h.others account haccount
    have hbalance := Ledger.balance_step before.outside hitem account
    simp only
    omega

theorem Reconciled.perform {before : Site Resolver Ledger}
    (h : Reconciled escrow ledger credits before) {move : Move}
    (hmove : ∀ source target amount, move ≠ .traffic (.transfer source target amount))
    (hanswer : involves escrow (move.perform.run before).1 = false) :
    Reconciled escrow ledger (fun account => credits account + move.credits account before)
      (move.perform.run before).2 := by
  cases move with
  | operate jury employer caller command =>
      exact h.step (perform_step _ caller command before) hanswer
  | traffic item =>
      refine h.traffic ?_
      rintro source target amount rfl
      exact hmove source target amount rfl

theorem reconciled_start (authority : Address) (settings : Settings) (juries : JurySource)
    (employers : EmployerSource) (ledger : Ledger) :
    Reconciled settings.escrowAccount ledger (fun _ => 0)
      (Site.start (Resolver.make authority settings juries employers) ledger) :=
  ⟨rfl, rfl, fun _ _ => rfl⟩

theorem reconciled_play {start : Site Resolver Ledger} {moves : List Move}
    (hstart : Reconciled escrow ledger (fun _ => 0) start)
    (hmoves : ∀ source target amount, .traffic (.transfer source target amount) ∉ moves)
    (hanswers : ∀ entry ∈ start.history Move.perform moves,
      involves escrow (entry.2.perform.run entry.1).1 = false) :
    Reconciled escrow ledger (fun account => creditsAlong account start moves)
      (start.play Move.perform moves) := by
  induction moves using List.reverseRecOn with
  | nil => exact hstart
  | append_singleton moves move ih =>
      simp only [Site.history_concat, List.mem_append, List.mem_singleton] at hmoves hanswers
      have hbefore := ih (fun source target amount hmem => hmoves source target amount (.inl hmem))
        (fun entry hmem => hanswers entry (.inl hmem))
      simp only [Site.play_concat, creditsAlong_concat]
      apply hbefore.perform
      · intro source target amount hmove
        exact hmoves source target amount (.inr hmove.symm)
      · exact hanswers _ (.inr rfl)

/-- A new resolver and its ledger, with credits, freezes and thaws beside them, but no transfers,
and the escrow account never on the other side of a bond. Then an account has what it had at the
start and was credited, less the bonds that it paid and more the bonds that were paid to it, as the
events tell; and the escrow account has, above what it had and was credited, the bonds of the
disputes that are open. What fails leaves everything as it was. -/
theorem balances_play (authority : Address) (settings : Settings) (juries : JurySource)
    (employers : EmployerSource) (ledger : Ledger) {moves : List Move}
    (hmoves : ∀ source target amount, .traffic (.transfer source target amount) ∉ moves)
    (hanswers : ∀ entry ∈ (Site.start (Resolver.make authority settings juries employers)
        ledger).history Move.perform moves,
      involves settings.escrowAccount (entry.2.perform.run entry.1).1 = false) :
    let start := Site.start (Resolver.make authority settings juries employers) ledger
    let site := start.play Move.perform moves
    (∀ account, account ≠ settings.escrowAccount →
      (site.outside.balance account).units + tally (Event.bondFrom account) site.events =
        (ledger.balance account).units + creditsAlong account start moves +
          tally (Event.bondTo account) site.events) ∧
      (site.outside.balance settings.escrowAccount).units =
        (ledger.balance settings.escrowAccount).units +
          creditsAlong settings.escrowAccount start moves + site.state.bonds ∧
      ∀ (move : Move) cause, (move.perform.run site).1 = .error cause →
        (move.perform.run site).2 = site := by
  intro start site
  have hreconciled :=
    reconciled_play (reconciled_start authority settings juries employers ledger) hmoves hanswers
  refine ⟨hreconciled.others, hreconciled.held, ?_⟩
  intro move cause hfailed
  cases move with
  | operate jury employer caller command =>
      have hstep := perform_step (.overLedger jury employer) caller command site
      rw [Move.perform] at hfailed
      rw [hfailed] at hstep
      exact hstep.eq_of_error
  | traffic item =>
      rw [Move.run_traffic] at hfailed ⊢
      cases haccept : site.outside.accept item with
      | error refusal => rfl
      | ok after =>
          rw [haccept] at hfailed
          cases hfailed

/-- The first dispute is settled for the employer at the bond that was collected, though the bond is
higher by then; the second is open, and a third was not raised for want of funds. -/
theorem balances_play_settled :
    let escrow := Address.filled 0xE5
    let holder := Address.filled 0xA1
    let appellant := Address.filled 0xAB
    let employer := Address.filled 0xEE
    let settings : Settings := ⟨Amount.ofNat 10, 0, holder, escrow⟩
    let operate := Move.operate (fun _ => .ok []) (fun _ => .ok employer)
    let moves : List Move := [
      .traffic (.credit appellant (Amount.ofNat 30)),
      operate appellant (.raise (JobId.ofNat 7) (Amount.ofNat 10)),
      operate holder (.setAppealBond (Amount.ofNat 15)),
      operate appellant (.raise (JobId.ofNat 8) (Amount.ofNat 15)),
      operate holder (.resolve (JobId.ofNat 7) true),
      operate appellant (.raise (JobId.ofNat 9) (Amount.ofNat 15))]
    let start := Site.start (Resolver.make holder settings .pool .registry) Ledger.empty
    let site := start.play Move.perform moves
    (∀ source target amount, .traffic (.transfer source target amount) ∉ moves) ∧
      (∀ entry ∈ start.history Move.perform moves,
        involves escrow (entry.2.perform.run entry.1).1 = false) ∧
      (site.outside.balance appellant).units = 5 ∧ (site.outside.balance employer).units = 10 ∧
      site.state.bonds = 15 ∧
      (site.outside.balance escrow).units =
        (Ledger.empty.balance escrow).units + creditsAlong escrow start moves +
          site.state.bonds := by
  intro escrow holder appellant employer settings operate moves start site
  have hmoves : ∀ source target amount, .traffic (.transfer source target amount) ∉ moves := by
    simp [moves, operate]
  have hanswers : ∀ entry ∈ start.history Move.perform moves,
      involves escrow (entry.2.perform.run entry.1).1 = false := by
    decide +kernel
  refine ⟨hmoves, hanswers, by decide +kernel, by decide +kernel, by decide +kernel, ?_⟩
  with_reducible exact
    (balances_play holder settings .pool .registry Ledger.empty hmoves hanswers).2.1

end Dispute

end Integrity
