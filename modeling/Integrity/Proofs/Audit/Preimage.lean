import Integrity.Audit.Seed
import Integrity.Proofs.Words

/-! # The message behind a seed

A finished job and its block are written as five words, one after the other. Each word gives back
the value it stands for, and all words are of one length, so the message tells the five values
apart from any others. -/

namespace Integrity

/-! ## Words that are told apart -/

namespace Word

theorem bytes_inj {first second : Word} : first.bytes = second.bytes ↔ first = second := by
  cases first
  cases second
  rw [Word.mk.injEq]

/-- A message that starts with a word is split behind it in one way. -/
theorem bytes_append_inj {first second : Word} {rest others : List UInt8} :
    first.bytes ++ rest = second.bytes ++ others ↔ first = second ∧ rest = others := by
  have hlength : first.bytes.length = second.bytes.length := by
    rw [first.length_bytes, second.length_bytes]
  constructor
  · intro h
    obtain ⟨hbytes, hrest⟩ := List.append_inj h hlength
    exact ⟨bytes_inj.mp hbytes, hrest⟩
  · rintro ⟨rfl, rfl⟩
    rfl

/-- Numbers of 64 bits are told apart by their words: a word has room for all of their bytes. -/
theorem ofNat_toNat_inj {m n : UInt64} : ofNat m.toNat = ofNat n.toNat ↔ m = n := by
  have hfits (k : UInt64) : k.toNat < 2 ^ 256 :=
    Nat.lt_trans k.toNat_lt (Nat.pow_lt_pow_right (by decide) (by decide))
  constructor
  · intro h
    have hnumbers := congrArg toNat h
    rw [toNat_ofNat (hfits m), toNat_ofNat (hfits n)] at hnumbers
    exact UInt64.toNat_inj.mp hnumbers
  · rintro rfl
    rfl

end Word

theorem JobId.toWord_inj {job other : JobId} : job.toWord = other.toWord ↔ job = other := by
  rw [JobId.toWord, JobId.toWord, JobId.toNat, JobId.toNat, Word.ofNat_toNat_inj, JobId.mk.injEq]

/-! ## Collisions -/

/-- Two different messages of `length` bytes with one digest. -/
structure Blake3.Collide (length : ℕ) (first second : List UInt8) : Prop where
  length_first : first.length = length
  length_second : second.length = length
  ne : first ≠ second
  hash_eq : hash first = hash second

namespace Audit

/-! ## Messages -/

/-- Times before 1970 are told apart as well: a time is known by its two's complement. -/
theorem timestampWord_inj {t u : Int64} : timestampWord t = timestampWord u ↔ t = u := by
  cases t
  cases u
  rw [timestampWord, timestampWord, Word.ofNat_toNat_inj, Int64.ofUInt64.injEq]

theorem length_seedMessage (input : SeedInput) (chain : ChainSnapshot) :
    (seedMessage input chain).length = 160 := by
  simp only [seedMessage, List.length_append, Word.length_bytes]

/-- Of two messages that are equal, the words are equal one after the other. -/
theorem seedMessage_inj {input other : SeedInput} {chain fork : ChainSnapshot} :
    seedMessage input chain = seedMessage other fork ↔
      input.job = other.job ∧ input.agent = other.agent ∧ input.result = other.result ∧
        chain.entropy = fork.entropy ∧ chain.timestamp = fork.timestamp := by
  obtain ⟨job, ⟨agent⟩, result⟩ := input
  obtain ⟨job', ⟨agent'⟩, result'⟩ := other
  simp only [seedMessage, List.append_assoc, Word.bytes_append_inj, Word.bytes_inj,
    JobId.toWord_inj, timestampWord_inj, Address.mk.injEq]

/-! ## Seeds -/

theorem eq_of_seedMessage_eq {input other : SeedInput} {chain fork : ChainSnapshot}
    (h : seedMessage input chain = seedMessage other fork) : input = other ∧ chain = fork := by
  obtain ⟨hjob, hagent, hresult, hentropy, htimestamp⟩ := seedMessage_inj.mp h
  cases input
  cases other
  cases chain
  cases fork
  rw [SeedInput.mk.injEq, ChainSnapshot.mk.injEq]
  exact ⟨⟨hjob, hagent, hresult⟩, hentropy, htimestamp⟩

/-- Two reports with one seed are the same report, or their messages collide. -/
theorem blockSeed_eq_iff {input other : SeedInput} {chain fork : ChainSnapshot} :
    blockSeed input chain = blockSeed other fork ↔
      input = other ∧ chain = fork ∨
        Blake3.Collide 160 (seedMessage input chain) (seedMessage other fork) := by
  constructor
  · intro h
    by_cases hmessage : seedMessage input chain = seedMessage other fork
    · exact .inl (eq_of_seedMessage_eq hmessage)
    · exact .inr ⟨length_seedMessage input chain, length_seedMessage other fork, hmessage, h⟩
  · rintro (⟨rfl, rfl⟩ | hcollide)
    · rfl
    · exact hcollide.hash_eq

/-- The seed of a finished job is the digest of a message of 160 bytes that is unambiguous: two
messages are equal exactly when the job, the agent, the result, the entropy and the time all are. So
different jobs, or different blocks, get one seed only by a collision of two such messages. -/
theorem seedMessage_unambiguous :
    (∀ (input : SeedInput) (chain : ChainSnapshot),
      blockSeed input chain = Blake3.hash (seedMessage input chain) ∧
        (seedMessage input chain).length = 160) ∧
      (∀ (input other : SeedInput) (chain fork : ChainSnapshot),
        seedMessage input chain = seedMessage other fork ↔
          input.job = other.job ∧ input.agent = other.agent ∧ input.result = other.result ∧
            chain.entropy = fork.entropy ∧ chain.timestamp = fork.timestamp) ∧
      ∀ (input other : SeedInput) (chain fork : ChainSnapshot),
        blockSeed input chain = blockSeed other fork ↔
          input = other ∧ chain = fork ∨
            Blake3.Collide 160 (seedMessage input chain) (seedMessage other fork) :=
  ⟨fun input chain => ⟨rfl, length_seedMessage input chain⟩,
    fun _ _ _ _ => seedMessage_inj, fun _ _ _ _ => blockSeed_eq_iff⟩

end Audit

end Integrity
