import Integrity.Collaborator.Error
import Integrity.Table

/-!
# The job registry

Who employs whom: the employer of each registered job.
-/

namespace Integrity

/-- The employers of the registered jobs. -/
structure JobRegistry where
  employers : Table JobId Address
deriving DecidableEq, Inhabited

namespace JobRegistry

/-- A registry without jobs. -/
def empty : JobRegistry :=
  ⟨Table.empty⟩

/-- Registers a job, or gives it a new employer. -/
def register (registry : JobRegistry) (job : JobId) (employer : Address) : JobRegistry :=
  ⟨registry.employers.insert job employer⟩

/-- The employer of a job. -/
def employerOf (registry : JobRegistry) (job : JobId) : Except CollaboratorError Address :=
  match registry.employers.get? job with
  | some employer => .ok employer
  | none => .error (.unknownJob job)

end JobRegistry

end Integrity
