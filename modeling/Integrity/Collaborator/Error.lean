import Integrity.Address
import Integrity.Amount
import Integrity.Job

/-!
# Failures of collaborators

What can go wrong in the systems that the engine works with: the settlement ledger, the job ledger,
the reputation engine and the selection of validators.
-/

namespace Integrity

/-- Why a collaborator did not do what it was asked. -/
inductive CollaboratorError where
  | insufficientFunds (account : Address) (needed available : Amount)
  | unknownJob (job : JobId)
  | recipientFrozen (account : Address)
  | balanceOverflow (account : Address)
  | unavailable (reason : String)
deriving DecidableEq

/-- What is said about a failure of a collaborator. -/
def CollaboratorError.message : CollaboratorError → String
  | .insufficientFunds account needed available =>
    s!"Insufficient funds in {account}: needed {needed}, available {available}"
  | .unknownJob job => s!"Unknown job: {job}"
  | .recipientFrozen account => s!"Transfer rejected: recipient {account} is frozen"
  | .balanceOverflow account => s!"Transfer rejected: balance overflow for {account}"
  | .unavailable reason => s!"Collaborator unavailable: {reason}"

end Integrity
