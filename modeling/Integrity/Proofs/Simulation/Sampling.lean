import Integrity.Proofs.Audit.Frequency
import Integrity.Proofs.Audit.Step
import Integrity.Simulation.Sampling

/-! # What a sampling counts

The draws of a sampling are words of the random stream, two for each job, and the block before them.
No draw looks at the scheduler, and no report is refused: the scheduler knows the notifier, it never
stands still, and an audit may take the place of another. So the selected jobs are counted one by
one, each by its own draw, whatever became of the jobs before. -/

namespace Integrity

/-- The words of thirty-two bytes that a stream yields, one after the other. -/
def Random.Stream.wordAt (s : Stream) : ℕ → Word
  | 0 => s.word32.1
  | n + 1 => wordAt s.word32.2 n

theorem Random.Stream.wordAt_zero (s : Stream) : s.wordAt 0 = s.word32.1 :=
  rfl

theorem Random.Stream.wordAt_succ (s : Stream) (n : ℕ) :
    s.wordAt (n + 1) = s.word32.2.wordAt n :=
  rfl

namespace Simulation.Sampling

open Audit (Scheduler SeedInput)
open Integrity.Random (Stream)

/-! ## Draws -/

/-- The finished job whose agent and result are the words of a stream after the first `2 * n`; the
first of these jobs has the number `first`. -/
def drawnFrom (stream : Stream) (first n : ℕ) : SeedInput :=
  ⟨JobId.ofNat (first + n), ⟨stream.wordAt (2 * n)⟩, stream.wordAt (2 * n + 1)⟩

/-- Somebody did the job, and the digest of its message leaves a small enough remainder. -/
def IsChosen (block : ChainSnapshot) (probability : UInt16) (input : SeedInput) : Prop :=
  input.agent ≠ Address.null ∧
    (Blake3.hash (Audit.seedMessage input block)).toNat % 10000 < probability.toNat

instance (block : ChainSnapshot) (probability : UInt16) (input : SeedInput) :
    Decidable (IsChosen block probability input) :=
  inferInstanceAs (Decidable (_ ∧ _))

/-- How many of the first jobs of a stream are chosen in a block at a probability. -/
def chosen (block : ChainSnapshot) (stream : Stream) (probability : UInt16) (trials : ℕ) : ℕ :=
  Nat.count (fun n => IsChosen block probability (drawnFrom stream 0 n)) trials

/-! ## The scheduler of a sampling -/

/-- A scheduler that takes every report of the operator. -/
structure IsReady (probability : UInt16) (s : Scheduler) : Prop where
  running : s.paused = false
  notifier : s.notifier = operator
  probability : s.probability = probability
  policy : s.policy = .lastWriteWins

theorem isReady_of_make {probability : UInt16} {s : Scheduler}
    (h : Scheduler.make operator (settings probability) false = .ok s) :
    IsReady probability s := by
  simp only [Scheduler.make] at h
  cases hprobability : Scheduler.ensureProbability (settings probability).probability with
  | error cause =>
      rw [hprobability] at h
      cases h
  | ok passed =>
      rw [hprobability] at h
      cases h
      exact ⟨rfl, rfl, rfl, rfl⟩

theorem isChosen_iff {block : ChainSnapshot} {probability : UInt16} {s : Scheduler}
    (h : IsReady probability s) (input : SeedInput) :
    IsChosen block probability input ↔
      ¬s.Idle input.agent true ∧ Audit.isSelected (Audit.blockSeed input block) s.probability := by
  rw [IsChosen, Scheduler.not_idle, h.probability, Audit.isSelected_iff, Address.isNull,
    Audit.blockSeed]
  constructor
  · rintro ⟨hagent, hseed⟩
    refine ⟨⟨rfl, beq_false_of_ne hagent, ?_⟩, hseed⟩
    rintro rfl
    exact absurd hseed (Nat.not_lt_zero _)
  · rintro ⟨⟨-, hagent, -⟩, hseed⟩
    exact ⟨ne_of_beq_false hagent, hseed⟩

/-- A report is never refused: its job is selected if it is chosen, and the scheduler takes the next
report as well. -/
theorem IsReady.finalize {probability : UInt16} {s : Scheduler} (h : IsReady probability s)
    (block : ChainSnapshot) (input : SeedInput) :
    ∃ answer site,
      (Scheduler.finalize Audit.blockSeed block operator input.job input.agent true
        input.result).run (.start s ()) = (.ok answer, site) ∧
      (answer.isSome = true ↔ IsChosen block probability input) ∧
      IsReady probability site.state := by
  have hrunning : s.ensureRunning = .ok () := by
    rw [Scheduler.ensureRunning, h.running]
    rfl
  have hnotifier : s.ensureNotifier operator = .ok () := by
    rw [Scheduler.ensureNotifier, h.notifier]
    decide
  have hfree : ¬((s.audit input.job).isSome ∧ s.policy = .rejectExisting) := by
    rw [h.policy]
    rintro ⟨-, hpolicy⟩
    cases hpolicy
  rw [Scheduler.run_finalize, Site.start]
  simp only [hrunning, hnotifier, isChosen_iff h]
  by_cases hidle : s.Idle input.agent true
  · exact ⟨none, _, if_pos hidle, by simp [hidle], h⟩
  by_cases hseed : Audit.isSelected (Audit.blockSeed input block) s.probability = true
  · simp only [if_neg hidle, if_neg hfree, if_pos hseed]
    exact ⟨_, _, rfl, by simp [hidle, hseed], h.running, h.notifier, h.probability, h.policy⟩
  · simp only [if_neg hidle, if_neg hfree, if_neg hseed]
    exact ⟨_, _, rfl, by simp [hseed], h.running, h.notifier, h.probability, h.policy⟩

/-! ## Counting -/

theorem drawnFrom_succ (stream : Stream) (first n : ℕ) :
    drawnFrom stream first (n + 1) =
      drawnFrom stream.word32.2.word32.2 (first + 1) n := by
  have hjob : first + (n + 1) = first + 1 + n := by omega
  rw [drawnFrom, drawnFrom, hjob, Nat.mul_succ, Stream.wordAt_succ, Stream.wordAt_succ,
    Stream.wordAt_succ, Stream.wordAt_succ]

theorem count_succ {block : ChainSnapshot} {s : Scheduler} {stream : Stream} {first : ℕ}
    {answer : Option Audit.Record} {site : Site Scheduler Unit}
    (h : (Scheduler.finalize Audit.blockSeed block operator (drawnFrom stream first 0).job
      (drawnFrom stream first 0).agent true (drawnFrom stream first 0).result).run (.start s ()) =
        (.ok answer, site)) (trials selected : ℕ) :
    count block (trials + 1) first selected s stream =
      count block trials (first + 1) (if answer.isSome then selected + 1 else selected) site.state
        stream.word32.2.word32.2 := by
  rcases hagent : stream.word32 with ⟨agent, rest⟩
  rcases hresult : rest.word32 with ⟨result, behind⟩
  have hdrawn : drawnFrom stream first 0 = ⟨JobId.ofNat first, ⟨agent⟩, result⟩ := by
    rw [drawnFrom, Nat.mul_zero, Nat.add_zero, Stream.wordAt_succ, Stream.wordAt_zero,
      Stream.wordAt_zero, hagent, hresult]
  rw [hdrawn] at h
  simp only [count, hagent, hresult, h]

/-- What is counted from a stream on are the jobs that are chosen as they are drawn from it. -/
theorem count_eq (block : ChainSnapshot) {probability : UInt16} {s : Scheduler}
    (h : IsReady probability s) (trials first selected : ℕ) (stream : Stream) :
    count block trials first selected s stream =
      .ok (selected +
        Nat.count (fun n => IsChosen block probability (drawnFrom stream first n)) trials) := by
  induction trials generalizing first selected s stream with
  | zero => rfl
  | succ trials ih =>
      obtain ⟨answer, site, hrun, hanswer, hready⟩ := h.finalize block (drawnFrom stream first 0)
      rw [count_succ hrun, ih hready, Nat.count_succ']
      simp only [drawnFrom_succ, hanswer]
      split
      · congr 1
        omega
      · rfl

/-! ## Samples -/

section Samples

variable (block : ChainSnapshot) (stream : Stream)

theorem run_eq {probability : UInt16} (h : probability.toNat ≤ 10000) (trials : ℕ) :
    run block stream probability trials =
      .ok ⟨trials, chosen block stream probability trials, probability,
        share (chosen block stream probability trials) trials⟩ := by
  have hprobability : Scheduler.ensureProbability (settings probability).probability = .ok () :=
    if_neg (Nat.not_lt.mpr h)
  obtain ⟨s, hs⟩ : ∃ s, Scheduler.make operator (settings probability) false = .ok s := by
    rw [Scheduler.make, hprobability]
    exact ⟨_, rfl⟩
  have hcount := count_eq block (isReady_of_make hs) trials 0 0 stream
  rw [Nat.zero_add] at hcount
  rw [run, hs]
  change (count block trials 0 0 s stream >>= _) = _
  rw [hcount]
  rfl

theorem run_eq_error {probability : UInt16} (h : 10000 < probability.toNat) (trials : ℕ) :
    run block stream probability trials = .error (.invalidProbability probability) := by
  have hprobability : Scheduler.ensureProbability (settings probability).probability =
      .error (.invalidProbability probability) :=
    if_pos h
  rw [run, Scheduler.make, hprobability]
  rfl

theorem selected_of_run {probability : UInt16} {trials : ℕ} {report : Report}
    (h : run block stream probability trials = .ok report) :
    report.selected = chosen block stream probability trials := by
  by_cases hprobability : probability.toNat ≤ 10000
  · rw [run_eq block stream hprobability] at h
    cases h
    rfl
  · rw [run_eq_error block stream (Nat.not_le.mp hprobability)] at h
    cases h

theorem chosen_le_chosen {low high : UInt16} (h : low ≤ high) (trials : ℕ) :
    chosen block stream low trials ≤ chosen block stream high trials := by
  have hle := UInt16.le_iff_toNat_le.mp h
  apply Nat.count_mono_left
  rintro n - ⟨hagent, hseed⟩
  exact ⟨hagent, hseed.trans_le hle⟩

theorem chosen_zero (trials : ℕ) : chosen block stream 0 trials = 0 := by
  rw [chosen, Nat.count_iff_forall_not]
  rintro n - ⟨-, hseed⟩
  exact absurd hseed (Nat.not_lt_zero _)

/-- At certainty every job is chosen that somebody did. -/
theorem chosen_certainty (trials : ℕ) :
    chosen block stream 10000 trials +
      Nat.count (fun n => (drawnFrom stream 0 n).agent = Address.null) trials = trials := by
  induction trials with
  | zero => rfl
  | succ trials ih =>
      have hchosen : IsChosen block 10000 (drawnFrom stream 0 trials) ↔
          (drawnFrom stream 0 trials).agent ≠ Address.null :=
        and_iff_left (Nat.mod_lt _ (by decide))
      rw [chosen, Nat.count_succ, ← chosen, Nat.count_succ]
      simp only [hchosen]
      by_cases hagent : (drawnFrom stream 0 trials).agent = Address.null
      · rw [if_neg (not_not.mpr hagent), if_pos hagent]
        omega
      · rw [if_pos hagent, if_neg hagent]
        omega

theorem chosen_succ (probability : UInt16) (trials : ℕ) :
    chosen block stream probability trials ≤ chosen block stream probability (trials + 1) ∧
      chosen block stream probability (trials + 1) ≤
        chosen block stream probability trials + 1 := by
  rw [chosen, chosen, Nat.count_succ]
  split <;> omega

end Samples

/-- A sampling reports how many of its jobs are chosen, each by its own draw: somebody did the job,
and its seed is below the probability. The draws are the same at every probability. So a higher
probability selects at least as many jobs, none is selected at zero, all that somebody did are at
certainty, and one more job adds at most one. Above certainty there is no sample. -/
theorem sample_counts (seed : UInt64) (trials : ℕ) :
    let block := (drawBlock (Stream.ofSeed seed)).1
    let drawn := drawnFrom (drawBlock (Stream.ofSeed seed)).2 0
    (∀ probability, probability.toNat ≤ 10000 →
      ∃ report, sample probability trials seed = .ok report ∧ report.trials = trials ∧
        report.expected = probability ∧
        report.selected = Nat.count (fun n => IsChosen block probability (drawn n)) trials) ∧
      (∀ low high first second, low ≤ high → sample low trials seed = .ok first →
        sample high trials seed = .ok second → first.selected ≤ second.selected) ∧
      (∀ report, sample 0 trials seed = .ok report → report.selected = 0) ∧
      (∀ report, sample 10000 trials seed = .ok report →
        report.selected + Nat.count (fun n => (drawn n).agent = Address.null) trials = trials) ∧
      (∀ probability first second, sample probability trials seed = .ok first →
        sample probability (trials + 1) seed = .ok second →
        first.selected ≤ second.selected ∧ second.selected ≤ first.selected + 1) ∧
      ∀ probability, 10000 < probability.toNat →
        sample probability trials seed = .error (.invalidProbability probability) := by
  simp only [sample]
  -- Nothing is asked of the draws, so they are any block and any stream.
  generalize (drawBlock (Stream.ofSeed seed)).1 = block
  generalize (drawBlock (Stream.ofSeed seed)).2 = stream
  refine ⟨?_, ?_, ?_, ?_, ?_, fun probability h => run_eq_error block stream h trials⟩
  · intro probability h
    exact ⟨_, run_eq block stream h trials, rfl, rfl, rfl⟩
  · intro low high first second h hfirst hsecond
    rw [selected_of_run block stream hfirst, selected_of_run block stream hsecond]
    exact chosen_le_chosen block stream h trials
  · intro report hreport
    rw [selected_of_run block stream hreport, chosen_zero]
  · intro report hreport
    rw [selected_of_run block stream hreport]
    exact chosen_certainty block stream trials
  · intro probability first second hfirst hsecond
    rw [selected_of_run block stream hfirst, selected_of_run block stream hsecond]
    exact chosen_succ block stream probability trials

/-- The first job of the first stream is chosen at even odds, and so at certainty; with the second
there may be two. -/
theorem sample_counts_first :
    (5000 : UInt16).toNat ≤ 10000 ∧ (5000 : UInt16) ≤ 10000 ∧ 10000 < (10001 : UInt16).toNat ∧
      ∃ half one two, sample 5000 1 1 = .ok half ∧ sample 10000 1 1 = .ok one ∧
        sample 10000 2 1 = .ok two ∧ half.selected = 1 ∧ half.selected ≤ one.selected ∧
        one.selected = 1 ∧ two.selected ≤ 2 ∧
        sample 10001 1 1 = .error (.invalidProbability 10001) := by
  obtain ⟨hreport, hmore, -, hall, hstep, hrefused⟩ := sample_counts 1 1
  obtain ⟨htwo, -⟩ := sample_counts 1 2
  have hodds : (5000 : UInt16).toNat ≤ 10000 := by decide
  have hle : (5000 : UInt16) ≤ 10000 := by decide
  have habove : 10000 < (10001 : UInt16).toNat := by decide
  obtain ⟨half, hhalf, -, -, hcount⟩ := hreport 5000 hodds
  obtain ⟨one, hone, -⟩ := hreport 10000 le_rfl
  obtain ⟨two, htwo, -⟩ := htwo 10000 le_rfl
  have hsomebody : Nat.count (fun n =>
      (drawnFrom (drawBlock (Stream.ofSeed 1)).2 0 n).agent = Address.null) 1 = 0 := by
    decide +kernel
  have hchosen : half.selected = 1 := hcount.trans (by decide +kernel)
  have hselected := hall one hone
  rw [hsomebody, Nat.add_zero] at hselected
  have hnext := (hstep 10000 one two hone htwo).2
  rw [hselected] at hnext
  exact ⟨hodds, hle, habove, half, one, two, hhalf, hone, htwo, hchosen,
    hmore 5000 10000 half one hle hhalf hone, hselected, hnext, hrefused 10001 habove⟩

end Simulation.Sampling

end Integrity
