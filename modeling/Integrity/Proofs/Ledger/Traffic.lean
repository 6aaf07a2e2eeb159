import Integrity.Collaborator.Ledger

/-! # Traffic of a ledger

Credits, transfers, freezes and thaws in any order, and what each of them does to balances. -/

namespace Integrity.Ledger

/-- What may happen to a ledger. -/
inductive Traffic where
  | credit (account : Address) (amount : Amount)
  | transfer (source target : Address) (amount : Amount)
  | freeze (account : Address)
  | thaw (account : Address)
deriving DecidableEq

/-- The ledger after something happened to it, or why it was refused. -/
def accept (ledger : Ledger) : Traffic → Except CollaboratorError Ledger
  | .credit account amount => ledger.credit account amount
  | .transfer source target amount => ledger.transfer source target amount
  | .freeze account => .ok (ledger.freeze account)
  | .thaw account => .ok (ledger.thaw account)

/-- What is refused leaves the ledger as it is. -/
def step (ledger : Ledger) (traffic : Traffic) : Ledger :=
  match ledger.accept traffic with
  | .ok after => after
  | .error _ => ledger

def run (ledger : Ledger) (traffic : List Traffic) : Ledger :=
  traffic.foldl step ledger

/-! ## Single writes -/

theorem balance_write (ledger : Ledger) (account x : Address) (amount : Amount) :
    (ledger.write account amount).balance x =
      if account = x then amount else ledger.balance x := by
  simp only [balance, write, Table.get?_insert]
  split <;> rfl

@[simp]
theorem balance_freeze (ledger : Ledger) (account x : Address) :
    (ledger.freeze account).balance x = ledger.balance x :=
  rfl

@[simp]
theorem balance_thaw (ledger : Ledger) (account x : Address) :
    (ledger.thaw account).balance x = ledger.balance x :=
  rfl

/-! ## Credits and transfers that are accepted -/

theorem credit_eq_ok {ledger after : Ledger} {account : Address} {amount : Amount} :
    ledger.credit account amount = .ok after ↔
      ∃ updated : Amount, updated.units = (ledger.balance account).units + amount.units ∧
        after = ledger.write account updated := by
  simp only [credit]
  cases h : (ledger.balance account).add? amount with
  | none =>
      simp only [reduceCtorEq, false_iff, not_exists, not_and]
      intro updated hunits
      rw [Amount.add?_eq_some.mpr hunits] at h
      simp at h
  | some updated =>
      rw [Amount.add?_eq_some] at h
      simp only [Except.ok.injEq]
      constructor
      · rintro rfl
        exact ⟨updated, h, rfl⟩
      · rintro ⟨other, hother, rfl⟩
        rw [Amount.ext (hother.trans h.symm)]

/-- A transfer is refused for the payee first, then for want of funds, and last when the payee would
hold too much. -/
theorem transfer_eq (ledger : Ledger) (source target : Address) (amount : Amount) :
    ledger.transfer source target amount =
      if ledger.isFrozen target = true then .error (.recipientFrozen target)
      else if (ledger.balance source).units < amount.units then
        .error (.insufficientFunds source amount (ledger.balance source))
      else if maxWord64 < (ledger.balance target).units + amount.units then
        .error (.balanceOverflow target)
      else
        .ok ((ledger.write source ((ledger.balance source).monus amount)).write target
          ((ledger.balance target).saturatingAdd amount)) := by
  rw [transfer]
  by_cases hfrozen : ledger.isFrozen target = true
  · rw [if_pos hfrozen, if_pos hfrozen]
  rw [if_neg hfrozen, if_neg hfrozen]
  by_cases hshort : (ledger.balance source).units < amount.units
  · rw [Amount.sub?_eq_none.mpr hshort, if_pos hshort]
  rw [Amount.sub?_eq_some_monus (Nat.le_of_not_lt hshort), if_neg hshort]
  by_cases hover : maxWord64 < (ledger.balance target).units + amount.units
  · rw [Amount.add?_eq_none.mpr hover, if_pos hover]
  · rw [Amount.add?_eq_some_saturatingAdd (Nat.le_of_not_lt hover), if_neg hover]

/-- An accepted transfer writes what is left to the payer, and then to the payee what it had before
the payer was debited, with the amount added. -/
theorem transfer_eq_ok {ledger after : Ledger} {source target : Address} {amount : Amount} :
    ledger.transfer source target amount = .ok after ↔
      ledger.isFrozen target = false ∧
        ∃ remaining credited : Amount,
          (ledger.balance source).units = remaining.units + amount.units ∧
          credited.units = (ledger.balance target).units + amount.units ∧
          after = (ledger.write source remaining).write target credited := by
  rw [transfer_eq]
  by_cases hfrozen : ledger.isFrozen target = true
  · simp [hfrozen]
  by_cases hshort : (ledger.balance source).units < amount.units
  · simp only [if_neg hfrozen, if_pos hshort, reduceCtorEq, false_iff]
    rintro ⟨-, remaining, credited, hremaining, -, -⟩
    omega
  by_cases hover : maxWord64 < (ledger.balance target).units + amount.units
  · simp only [if_neg hfrozen, if_neg hshort, if_pos hover, reduceCtorEq, false_iff]
    rintro ⟨-, remaining, credited, -, hcredited, -⟩
    have hfits := credited.units_le
    omega
  simp only [if_neg hfrozen, if_neg hshort, if_neg hover, Except.ok.injEq]
  have hremaining : (ledger.balance source).units =
      ((ledger.balance source).monus amount).units + amount.units := by
    rw [Amount.units_monus]
    omega
  have hcredited : ((ledger.balance target).saturatingAdd amount).units =
      (ledger.balance target).units + amount.units := by
    rw [Amount.units_saturatingAdd]
    omega
  constructor
  · rintro rfl
    exact ⟨Bool.eq_false_iff.mpr hfrozen, _, _, hremaining, hcredited, rfl⟩
  · rintro ⟨-, remaining, credited, hleft, hsum, rfl⟩
    rw [Amount.ext (hsum.trans hcredited.symm),
      Amount.ext (Nat.add_right_cancel (hleft.symm.trans hremaining))]

/-- The payee of a transfer has the amount more, even when it pays itself. -/
theorem balance_target_of_transfer {ledger after : Ledger} {source target : Address}
    {amount : Amount} (h : ledger.transfer source target amount = .ok after) :
    (after.balance target).units = (ledger.balance target).units + amount.units := by
  obtain ⟨-, remaining, credited, -, hcredited, rfl⟩ := transfer_eq_ok.mp h
  rw [balance_write, if_pos rfl, hcredited]

/-- The payer of a transfer to another account has the amount less. -/
theorem balance_source_of_transfer {ledger after : Ledger} {source target : Address}
    {amount : Amount} (h : ledger.transfer source target amount = .ok after)
    (hne : target ≠ source) :
    (after.balance source).units + amount.units = (ledger.balance source).units := by
  obtain ⟨-, remaining, credited, hremaining, -, rfl⟩ := transfer_eq_ok.mp h
  rw [balance_write, if_neg hne, balance_write, if_pos rfl, hremaining]

theorem balance_of_transfer_of_ne {ledger after : Ledger} {source target x : Address}
    {amount : Amount} (h : ledger.transfer source target amount = .ok after)
    (hsource : source ≠ x) (htarget : target ≠ x) : after.balance x = ledger.balance x := by
  obtain ⟨-, remaining, credited, -, -, rfl⟩ := transfer_eq_ok.mp h
  rw [balance_write, if_neg htarget, balance_write, if_neg hsource]

theorem frozen_of_transfer {ledger after : Ledger} {source target : Address} {amount : Amount}
    (h : ledger.transfer source target amount = .ok after) : after.frozen = ledger.frozen := by
  obtain ⟨-, remaining, credited, -, -, rfl⟩ := transfer_eq_ok.mp h
  rfl

/-- A transfer is refused for want of funds only when the payer has less than the amount. -/
theorem lt_of_transfer_eq_insufficientFunds {ledger : Ledger} {source target account : Address}
    {amount needed available : Amount}
    (h : ledger.transfer source target amount =
      .error (.insufficientFunds account needed available)) :
    (ledger.balance source).units < amount.units := by
  rw [transfer_eq] at h
  split at h
  · cases h
  split at h
  · next hshort => exact hshort
  split at h <;> cases h

/-! ## Accounts that pay nothing -/

/-- Something that is no transfer out of an account. -/
def Traffic.Spares (account : Address) : Traffic → Prop
  | .transfer source _ _ => source ≠ account
  | _ => True

/-- An account loses nothing to traffic that is no transfer out of it. -/
theorem balance_le_of_accept {ledger after : Ledger} {traffic : Traffic} {account : Address}
    (hspares : traffic.Spares account) (h : ledger.accept traffic = .ok after) :
    (ledger.balance account).units ≤ (after.balance account).units := by
  cases traffic with
  | credit payee amount =>
      obtain ⟨updated, hupdated, rfl⟩ := credit_eq_ok.mp h
      rw [balance_write]
      split
      · subst payee
        omega
      · exact Nat.le_refl _
  | transfer source target amount =>
      by_cases htarget : target = account
      · subst target
        have hbalance := balance_target_of_transfer h
        omega
      · have hbalance := balance_of_transfer_of_ne h hspares htarget
        exact Nat.le_of_eq (congrArg Amount.units hbalance.symm)
  | freeze frozen =>
      cases h
      exact Nat.le_refl _
  | thaw thawed =>
      cases h
      exact Nat.le_refl _

end Integrity.Ledger
