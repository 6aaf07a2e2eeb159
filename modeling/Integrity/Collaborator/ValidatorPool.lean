import Integrity.Address
import Integrity.Job

/-!
# The validator pool

A list of validators that takes turns: the jury of a job starts at the position that the job's
number picks and goes round the list.
-/

namespace Integrity

/-- Validators and the size of the juries they form. -/
structure ValidatorPool where
  validators : List Address
  /-- How many validators a jury has, if there are enough. -/
  jurySize : Nat
deriving DecidableEq, Inhabited

namespace ValidatorPool

/-- A pool without validators. -/
def empty : ValidatorPool :=
  ⟨[], 0⟩

/-- Adds a validator at the end, unless it is in the pool. -/
def add (pool : ValidatorPool) (validator : Address) : ValidatorPool :=
  if pool.validators.contains validator then pool
  else { pool with validators := pool.validators ++ [validator] }

/-- The position at which the jury of a job starts. -/
def start (pool : ValidatorPool) (job : JobId) : Nat :=
  job.toNat % pool.validators.length

/-- The first `count` of what comes when a list is gone through again and again, from where `ahead`
is left of it. -/
def cycled {α : Type} (list : List α) : (count : Nat) → (ahead : List α) → List α
  | 0, _ => []
  | count + 1, next :: ahead => next :: cycled list count ahead
  | count + 1, [] =>
    match list with
    | [] => []
    | next :: ahead => next :: cycled list count ahead

/-- The jury of a job: as many as a jury has, and at most all, going round the validators from its
start. -/
def jury (pool : ValidatorPool) (job : JobId) : List Address :=
  if pool.validators.isEmpty then []
  else
    let start := pool.start job
    let count := min pool.jurySize pool.validators.length
    (cycled pool.validators (start + count) pool.validators).drop start

end ValidatorPool

end Integrity
