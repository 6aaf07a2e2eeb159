import Integrity.Collaborator.Registry
import Integrity.Collaborator.ValidatorPool

/-!
# Where juries and employers come from

A dispute needs a jury when it is opened, and the employer of its job when the employer wins. Both
are asked of a source that the holder of the authority may replace.
-/

namespace Integrity.Dispute

/-- Who selects juries. -/
inductive JurySource where
  | pool
  | fixed (jury : List Address)
  | unavailable (reason : String)
deriving DecidableEq, Inhabited

/-- The jury of a job. -/
def JurySource.jury (source : JurySource) (pool : ValidatorPool) (job : JobId) :
    Except CollaboratorError (List Address) :=
  match source with
  | .pool => .ok (pool.jury job)
  | .fixed jury => .ok jury
  | .unavailable reason => .error (.unavailable reason)

/-- Who knows employers. -/
inductive EmployerSource where
  | registry
  | fixed (employer : Address)
  | unavailable (reason : String)
deriving DecidableEq, Inhabited

/-- The employer of a job. -/
def EmployerSource.employer (source : EmployerSource) (registry : JobRegistry) (job : JobId) :
    Except CollaboratorError Address :=
  match source with
  | .registry => registry.employerOf job
  | .fixed employer => .ok employer
  | .unavailable reason => .error (.unavailable reason)

end Integrity.Dispute
