import Integrity.Address

/-!
# Authority

Each part of the system answers to one address. Nobody holds an authority that has been given to
the null address.
-/

namespace Integrity

/-- The right to administer a part of the system. -/
structure Authority where
  holder : Address
deriving DecidableEq, Inhabited

/-- Whether a caller holds the authority. -/
def Authority.isHeldBy (authority : Authority) (caller : Address) : Bool :=
  !caller.isNull && authority.holder == caller

theorem Authority.isHeldBy_eq_false {authority : Authority} {caller : Address} :
    authority.isHeldBy caller = false ↔ caller ≠ authority.holder ∨ caller = Address.null := by
  by_cases hnull : caller = Address.null
  · simp [isHeldBy, Address.isNull, hnull]
  · simpa [isHeldBy, Address.isNull, hnull] using ne_comm

/-- Nobody holds an authority that was given to the null address. -/
theorem Authority.isHeldBy_null (caller : Address) :
    (Authority.mk Address.null).isHeldBy caller = false := by
  rw [isHeldBy_eq_false]
  exact (Decidable.em (caller = Address.null)).symm

end Integrity
