import Integrity.Event

/-!
# Readings

What an operation tells the instruments, beside the events that it tells the log.
-/

namespace Integrity

/-- What an instrument is to show. -/
inductive Reading where
  | temperature (value : Int)
  | tickApplied
  | tickRejected
  | auditScheduled
  | auditRecorded
  | penaltyApplied
  | disputeRaised
  | disputeResolved
  | escrow (total : Amount)
deriving DecidableEq

end Integrity
