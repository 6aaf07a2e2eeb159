import Integrity.Bytes

/-!
# Jobs

Jobs are numbered by the ledger that hands them out.
-/

namespace Integrity

/-- The number of a job. -/
structure JobId where
  value : UInt64
deriving DecidableEq, Inhabited

namespace JobId

/-- The job of a number. -/
def ofNat (n : Nat) : JobId :=
  ⟨UInt64.ofNat n⟩

/-- The number of a job. -/
def toNat (job : JobId) : Nat :=
  job.value.toNat

/-- The number of a job as a big-endian word, the form in which it is hashed. -/
def toWord (job : JobId) : Word :=
  Word.ofNat job.toNat

instance : ToString JobId :=
  ⟨fun job => s!"job#{job.toNat}"⟩

end JobId

end Integrity
