import Integrity.Address
import Integrity.Hash.Blake3
import Integrity.Job
import Integrity.Width

/-!
# Audit seeds

Whether a finished job is audited hangs on a seed: a digest of the job, its agent, the committed
result, and the block in which the job was finished. All of this is public, so anyone can work the
seed out.
-/

namespace Integrity

/-- A digest. -/
abbrev Digest : Type :=
  Word

/-- The block in which a job was finished. -/
structure ChainSnapshot where
  entropy : Digest
  /-- The time of the block, in seconds since the first of January 1970. -/
  timestamp : Int64
deriving DecidableEq, Inhabited

namespace Audit

/-- A finished job, as far as its seed depends on it. -/
structure SeedInput where
  job : JobId
  agent : Address
  result : Digest
deriving DecidableEq

/-- A rule that assigns a seed to a finished job and a block. -/
abbrev SeedSource : Type :=
  SeedInput → ChainSnapshot → Digest

/-- A time as a word: its two's complement in the last eight bytes, zeros before them. -/
def timestampWord (timestamp : Int64) : Word :=
  Word.ofNat timestamp.toUInt64.toNat

/-- The message whose digest is the seed: five words, one after the other. -/
def seedMessage (input : SeedInput) (chain : ChainSnapshot) : List UInt8 :=
  input.job.toWord.bytes ++ input.agent.word.bytes ++ input.result.bytes ++ chain.entropy.bytes
    ++ (timestampWord chain.timestamp).bytes

/-- The seed of a job by the entropy of its block. -/
def blockSeed : SeedSource :=
  fun input chain => Blake3.hash (seedMessage input chain)

/-- The same seed for every job. -/
def constantSeed (seed : Digest) : SeedSource :=
  fun _ _ => seed

/-- A chain whose blocks follow a clock, one every `interval` seconds. -/
structure ClockChain where
  interval : Int64
deriving DecidableEq

namespace ClockChain

/-- The chain with a block every `seconds` seconds: at least one, and no more than fit. -/
def ofSeconds (seconds : Nat) : ClockChain :=
  ⟨Int64.ofNat (max 1 (min seconds maxInt64.toNat))⟩

/-- The entropy of the block of a height. -/
def entropyOfHeight (height : Int64) : Digest :=
  Blake3.hash (utf8 "aice-block".toList ++ bigEndian 8 height.toUInt64.toNat)

/-- The block at a time. -/
def snapshot (chain : ClockChain) (now : Int64) : ChainSnapshot :=
  ⟨entropyOfHeight (now / chain.interval), now⟩

end ClockChain

end Audit

end Integrity
