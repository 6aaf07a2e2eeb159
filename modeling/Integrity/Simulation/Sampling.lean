import Integrity.Number.Notation
import Integrity.Random.Stream
import Integrity.Simulation.Replay

/-!
# Sampling selections

Jobs with random agents and results are reported to a scheduler, all in one random block, and those
that are selected are counted. The draws depend on a seed number alone.
-/

namespace Integrity.Simulation

open Audit (Scheduler)

namespace Sampling

/-- What a sampling shows. -/
structure Report where
  trials : Nat
  selected : Nat
  expected : UInt16
  observed : Number.Magnitude
deriving DecidableEq

/-- The share `selected / trials` in basis points, with double precision; zero when there are no
trials. -/
def share (selected trials : Nat) : Number.Magnitude :=
  let computed : Option Number.Magnitude := do
    let product ← (← Number.Magnitude.ofNat? selected).mul? (← Number.Magnitude.ofNat? 10000)
    product.div? (← Number.Magnitude.ofNat? trials)
  if trials = 0 then .zero else computed.getD .zero

/-- What a scheduler starts from. -/
def settings (probability : UInt16) : Audit.Settings :=
  { Audit.Settings.default with notifier := operator, probability }

/-- Draws the block in which all jobs are reported. -/
def drawBlock (stream : Random.Stream) : ChainSnapshot × Random.Stream :=
  let (entropy, stream) := stream.word32
  let (timestamp, stream) := stream.moment
  (⟨entropy, timestamp⟩, stream)

/-- Reports `trials` jobs, the first of which has the number `job`, and counts on from `selected`
those that are selected. -/
def count (block : ChainSnapshot) : (trials : Nat) → (job : Nat) → (selected : Nat) →
    Scheduler → Random.Stream → Except Audit.Error Nat
  | 0, _, selected, _, _ => .ok selected
  | trials + 1, job, selected, scheduler, stream =>
    let (agent, stream) := stream.word32
    let (result, stream) := stream.word32
    let id := JobId.ofNat job
    let report := Scheduler.finalize Audit.blockSeed block operator id ⟨agent⟩ true result
    match report.run (.start scheduler ()) with
    | (.error cause, _) => .error cause
    | (.ok record, site) =>
      count block trials (job + 1) (if record.isSome then selected + 1 else selected) site.state
        stream

/-- Samples the selections at a probability, from a block and a stream on. -/
def run (block : ChainSnapshot) (stream : Random.Stream) (probability : UInt16) (trials : Nat) :
    Except Audit.Error Report := do
  let scheduler ← Scheduler.make operator (settings probability) false
  let selected ← count block trials 0 0 scheduler stream
  return ⟨trials, selected, probability, share selected trials⟩

end Sampling

/-- Samples the selections at a probability. -/
def sample (probability : UInt16) (trials : Nat) (seed : UInt64) :
    Except Audit.Error Sampling.Report :=
  let drawn := Sampling.drawBlock (Random.Stream.ofSeed seed)
  Sampling.run drawn.1 drawn.2 probability trials

end Integrity.Simulation
