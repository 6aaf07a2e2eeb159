/-!
# Whole numbers of 64 bits
-/

namespace Integrity

/-- The largest number of 64 bits. -/
def maxWord64 : Nat :=
  0xFFFFFFFFFFFFFFFF

/-- The smallest number of 64 bits with a sign. -/
def minInt64 : Int :=
  -0x8000000000000000

/-- The largest number of 64 bits with a sign. -/
def maxInt64 : Int :=
  0x7FFFFFFFFFFFFFFF

/-- Whether a number fits 64 bits with a sign. -/
def FitsInt64 (n : Int) : Prop :=
  minInt64 ≤ n ∧ n ≤ maxInt64

instance (n : Int) : Decidable (FitsInt64 n) :=
  inferInstanceAs (Decidable (_ ∧ _))

end Integrity
