import Integrity.Proofs.Ledger.Traffic

/-! # Conservation of the settlement asset

Only credits issue units, apart from transfers that an account makes to itself: these write the
payee's new balance over the payer's, and so issue the amount once more. -/

namespace Integrity.Ledger

/-! ## The supply after one write -/

theorem supply_write (ledger : Ledger) (account : Address) (amount : Amount) :
    (ledger.write account amount).supply + (ledger.balance account).units =
      ledger.supply + amount.units := by
  have h := Table.total_insert Amount.units ledger.balances account amount
  have hbalance : (ledger.balance account).units =
      ((ledger.balances.get? account).map Amount.units).getD 0 := by
    simp only [balance]
    cases ledger.balances.get? account <;> rfl
  rw [hbalance]
  exact h

theorem supply_of_credit {ledger after : Ledger} {account : Address} {amount : Amount}
    (h : ledger.credit account amount = .ok after) :
    after.supply = ledger.supply + amount.units := by
  obtain ⟨updated, hupdated, rfl⟩ := credit_eq_ok.mp h
  have hwrite := supply_write ledger account updated
  omega

theorem supply_of_transfer_of_ne {ledger after : Ledger} {source target : Address}
    {amount : Amount} (h : ledger.transfer source target amount = .ok after)
    (hne : source ≠ target) : after.supply = ledger.supply := by
  obtain ⟨-, remaining, credited, hremaining, hcredited, rfl⟩ := transfer_eq_ok.mp h
  have hsource := supply_write ledger source remaining
  have htarget := supply_write (ledger.write source remaining) target credited
  rw [balance_write, if_neg hne] at htarget
  omega

/-- The second write of a transfer to oneself takes the place of the first, and nothing is
debited. -/
theorem supply_of_transfer_self {ledger after : Ledger} {account : Address} {amount : Amount}
    (h : ledger.transfer account account amount = .ok after) :
    after.supply = ledger.supply + amount.units := by
  obtain ⟨-, remaining, credited, hremaining, hcredited, rfl⟩ := transfer_eq_ok.mp h
  have hsource := supply_write ledger account remaining
  have htarget := supply_write (ledger.write account remaining) account credited
  rw [balance_write, if_pos rfl] at htarget
  omega

/-! ## What a run issues -/

/-- The units that a credit issues, if it is accepted. -/
def credited (ledger : Ledger) : Traffic → Nat
  | .credit account amount => if (ledger.credit account amount).isOk then amount.units else 0
  | _ => 0

/-- The units of a transfer that an account makes to itself, if it is accepted. -/
def doubled (ledger : Ledger) : Traffic → Nat
  | .transfer source target amount =>
    if source = target ∧ (ledger.transfer source target amount).isOk then amount.units else 0
  | _ => 0

/-- A measure of the traffic of a run, each at the ledger that it meets, added up. -/
def along (measure : Ledger → Traffic → Nat) (ledger : Ledger) : List Traffic → Nat
  | [] => 0
  | traffic :: rest => measure ledger traffic + along measure (ledger.step traffic) rest

theorem along_eq_zero_iff (measure : Ledger → Traffic → Nat) (ledger : Ledger)
    (moves : List Traffic) :
    along measure ledger moves = 0 ↔
      ∀ before traffic after, moves = before ++ traffic :: after →
        measure (ledger.run before) traffic = 0 := by
  induction moves generalizing ledger with
  | nil => simp [along]
  | cons first rest ih =>
      rw [along, Nat.add_eq_zero_iff, ih]
      constructor
      · rintro ⟨hfirst, hrest⟩ before traffic after hsplit
        cases before with
        | nil =>
            obtain ⟨rfl, rfl⟩ := List.cons.inj hsplit
            exact hfirst
        | cons head before =>
            obtain ⟨rfl, htail⟩ := List.cons.inj hsplit
            exact hrest before traffic after htail
      · intro h
        refine ⟨h [] first rest rfl, ?_⟩
        intro before traffic after hsplit
        exact h (first :: before) traffic after (by rw [hsplit, List.cons_append])

/-- What one step does to the supply. -/
theorem supply_step (ledger : Ledger) (traffic : Traffic) :
    (ledger.step traffic).supply =
      ledger.supply + ledger.credited traffic + ledger.doubled traffic := by
  cases traffic with
  | credit account amount =>
      cases h : ledger.credit account amount with
      | error cause => simp [step, accept, credited, doubled, h, Except.isOk, Except.toBool]
      | ok after =>
          simp [step, accept, credited, doubled, h, Except.isOk, Except.toBool,
            supply_of_credit h]
  | transfer source target amount =>
      cases h : ledger.transfer source target amount with
      | error cause => simp [step, accept, credited, doubled, h, Except.isOk, Except.toBool]
      | ok after =>
          by_cases hself : source = target
          · subst target
            simp [step, accept, credited, doubled, h, Except.isOk, Except.toBool,
              supply_of_transfer_self h]
          · simp [step, accept, credited, doubled, h, hself, supply_of_transfer_of_ne h hself]
  | freeze account => rfl
  | thaw account => rfl

theorem supply_run (ledger : Ledger) (moves : List Traffic) :
    (ledger.run moves).supply =
      ledger.supply + along credited ledger moves + along doubled ledger moves := by
  induction moves generalizing ledger with
  | nil => rfl
  | cons traffic rest ih =>
      have hstep := supply_step ledger traffic
      have hrest := ih (ledger.step traffic)
      simp only [along]
      change ((ledger.step traffic).run rest).supply = _
      omega

/-! ## When the asset is conserved -/

theorem doubled_eq_zero_iff (ledger : Ledger) (traffic : Traffic) :
    ledger.doubled traffic = 0 ↔
      ∀ account amount, traffic = .transfer account account amount →
        (ledger.transfer account account amount).isOk → amount.units = 0 := by
  cases traffic with
  | transfer source target amount =>
      simp only [doubled]
      constructor
      · rintro hzero account amount' hself hok
        cases hself
        simpa only [true_and, hok, if_true] using hzero
      · intro h
        split
        · next hself =>
            obtain ⟨rfl, hok⟩ := hself
            exact h source amount rfl hok
        · rfl
  | _ => simp [doubled]

/-- The supply grows by what the accepted credits issue, and by what accounts move to themselves. It
is conserved exactly when every transfer of an account to itself that is accepted moves nothing. -/
theorem supply_run_eq_iff (ledger : Ledger) (moves : List Traffic) :
    (ledger.run moves).supply =
        ledger.supply + along credited ledger moves + along doubled ledger moves ∧
      ((ledger.run moves).supply = ledger.supply + along credited ledger moves ↔
        ∀ before account amount after,
          moves = before ++ .transfer account account amount :: after →
            ((ledger.run before).transfer account account amount).isOk → amount.units = 0) := by
  have hsupply := supply_run ledger moves
  refine ⟨hsupply, ?_⟩
  rw [hsupply, Nat.add_eq_left, along_eq_zero_iff]
  constructor
  · intro h before account amount after hsplit
    exact (doubled_eq_zero_iff _ _).mp (h before _ after hsplit) account amount rfl
  · intro h before traffic after hsplit
    rw [doubled_eq_zero_iff]
    rintro account amount rfl
    exact h before account amount after hsplit

/-- An account that has ten units and moves four of them to itself has fourteen. -/
theorem supply_run_transfer_self :
    let account := Address.filled 0xAB
    let ledger := empty.write account (Amount.ofNat 10)
    let moves : List Traffic := [.transfer account account (Amount.ofNat 4)]
    ledger.supply = 10 ∧ along credited ledger moves = 0 ∧ (ledger.run moves).supply = 14 ∧
      (ledger.run moves).supply ≠ ledger.supply + along credited ledger moves := by
  decide

end Integrity.Ledger
