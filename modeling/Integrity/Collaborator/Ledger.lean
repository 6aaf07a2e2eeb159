import Integrity.Collaborator.Error
import Integrity.Table

/-!
# The settlement ledger

Balances of the settlement asset. An account without a balance has none of it. A frozen account
receives no transfers, though it may still pay.
-/

namespace Integrity

/-- The balances of the settlement asset. -/
structure Ledger where
  balances : Table Address Amount
  /-- The accounts that receive no transfers. -/
  frozen : List Address
deriving DecidableEq

namespace Ledger

/-- A ledger without balances. -/
def empty : Ledger :=
  ⟨Table.empty, []⟩

instance : Inhabited Ledger :=
  ⟨empty⟩

/-- The balance of an account. -/
def balance (ledger : Ledger) (account : Address) : Amount :=
  (ledger.balances.get? account).getD Amount.zero

/-- Whether an account receives no transfers. -/
def isFrozen (ledger : Ledger) (account : Address) : Bool :=
  ledger.frozen.contains account

/-- Sets the balance of an account. -/
def write (ledger : Ledger) (account : Address) (amount : Amount) : Ledger :=
  { ledger with balances := ledger.balances.insert account amount }

/-- Issues new units to an account. -/
def credit (ledger : Ledger) (account : Address) (amount : Amount) :
    Except CollaboratorError Ledger :=
  match (ledger.balance account).add? amount with
  | none => .error (.balanceOverflow account)
  | some updated => .ok (ledger.write account updated)

/-- Stops transfers into an account. -/
def freeze (ledger : Ledger) (account : Address) : Ledger :=
  { ledger with frozen := ledger.frozen.insert account }

/-- Lets transfers into an account again. -/
def thaw (ledger : Ledger) (account : Address) : Ledger :=
  { ledger with frozen := ledger.frozen.filter fun a => a ≠ account }

/-- Moves units from one account to another. Both new balances are worked out from the balances
before the transfer; the payer's is written first. -/
def transfer (ledger : Ledger) (source target : Address) (amount : Amount) :
    Except CollaboratorError Ledger :=
  if ledger.isFrozen target then .error (.recipientFrozen target)
  else
    match (ledger.balance source).sub? amount with
    | none => .error (.insufficientFunds source amount (ledger.balance source))
    | some remaining =>
      match (ledger.balance target).add? amount with
      | none => .error (.balanceOverflow target)
      | some credited => .ok ((ledger.write source remaining).write target credited)

/-- The units of all accounts together. -/
def supply (ledger : Ledger) : Nat :=
  ledger.balances.total Amount.units

end Ledger

end Integrity
