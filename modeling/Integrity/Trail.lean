/-!
# Trails of failures

What is said about a failure has several layers: what failed, what caused that, and so on inwards.
-/

namespace Integrity

/-- What is said about a failure. -/
structure Trail where
  failure : String
  /-- What caused it, from the outside in. -/
  causes : List String
deriving DecidableEq, Repr

namespace Trail

/-- A failure without a known cause. -/
def ofFailure (failure : String) : Trail :=
  ⟨failure, []⟩

/-- A failure that was caused by another. -/
def causing (trail : Trail) (failure : String) : Trail :=
  ⟨failure, trail.failure :: trail.causes⟩

/-- All layers on one line. -/
def full (trail : Trail) : String :=
  ": ".intercalate (trail.failure :: trail.causes)

end Trail

end Integrity
