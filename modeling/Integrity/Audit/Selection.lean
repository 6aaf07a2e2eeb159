import Integrity.Audit.Seed

/-!
# Selection

A seed is read as a number; the job is selected when the number, modulo ten thousand, is below the
probability in basis points.
-/

namespace Integrity.Audit

/-- The basis points of certainty. -/
def certainty : Nat :=
  10000

/-- The remainder of a byte string read as a number, worked out from the first byte on so that no
number on the way is large. -/
def residueOf (modulus : Nat) (bytes : List UInt8) : Nat :=
  bytes.foldl (fun acc byte => (acc * 256 + byte.toNat) % modulus) 0

/-- The remainder of a seed. -/
def residue (seed : Digest) (modulus : Nat) : Nat :=
  residueOf modulus seed.bytes

/-- Whether a seed selects its job at a probability in basis points. -/
def isSelected (seed : Digest) (probability : UInt16) : Bool :=
  decide (0 < probability) && decide (residue seed certainty < probability.toNat)

end Integrity.Audit
