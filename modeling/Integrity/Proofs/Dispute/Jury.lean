import Integrity.Proofs.Dispute.Decision
import Mathlib.Data.List.Dedup

/-! # Different members of a jury

A pool asks of a validator that is added whether it has it, but takes the validators of its start as
they are given; and a resolver only counts the members of a jury. So a validator that is given twice
may serve twice on a jury, which then passes for larger than it is. -/

namespace Integrity.Dispute

open ValidatorPool (Apart)

/-- Every dispute that is opened over a pool has enough different members on its jury. -/
def SeatsEnough (pool : ValidatorPool) : Prop :=
  ∀ (employer : JobId → Except CollaboratorError Address) (appeal : Appeal)
    (before : Site Resolver Ledger) (record : Record),
    ((Resolver.perform (.overPool pool employer) appeal.appellant
      appeal.command).run before).1 = .ok (.opened record) →
    before.state.minJurySize ≤ record.jury.dedup.length

theorem verdict_of_answer {pool : ValidatorPool}
    {employer : JobId → Except CollaboratorError Address} {appeal : Appeal}
    {before : Site Resolver Ledger} {record : Record}
    (h : ((Resolver.perform (.overPool pool employer) appeal.appellant
      appeal.command).run before).1 = .ok (.opened record)) :
    appeal.verdict pool before.state before.outside = .opened ∧ record = appeal.record pool := by
  rw [run_appeal] at h
  cases hverdict : appeal.verdict pool before.state before.outside with
  | refused cause =>
      rw [hverdict] at h
      cases h
  | opened =>
      rw [hverdict] at h
      cases h
      exact ⟨rfl, rfl⟩

/-- The different members are enough whatever is required exactly when all members are different:
otherwise a resolver may require just as many as are counted. -/
theorem seatsEnough_iff {pool : ValidatorPool} :
    SeatsEnough pool ↔ ∀ job, (pool.jury job).Nodup := by
  constructor
  · intro h job
    let settings : Settings := ⟨Amount.zero, (pool.jury job).length, Address.null, Address.null⟩
    let before := Site.start (Resolver.make Address.null settings .pool .registry) Ledger.empty
    let appeal : Appeal := ⟨Address.null, job, Amount.zero⟩
    have hverdict : appeal.verdict pool before.state before.outside = .opened := by
      rw [Appeal.verdict_eq_opened]
      exact ⟨rfl, Table.get?_empty job, (pool.length_jury job).le, rfl, Nat.le_refl _,
        Nat.zero_le _⟩
    have hopened : ((Resolver.perform (.overPool pool fun job => .error (.unknownJob job))
        appeal.appellant appeal.command).run before).1 = .ok (.opened (appeal.record pool)) := by
      rw [run_appeal, hverdict]
    have hseats : (pool.jury job).length ≤ (pool.jury job).dedup.length :=
      h _ appeal before _ hopened
    exact List.dedup_eq_self.mp ((List.dedup_sublist _).eq_of_length_le hseats)
  · intro h employer appeal before record hopened
    obtain ⟨hverdict, rfl⟩ := verdict_of_answer hopened
    obtain ⟨-, -, hsize, -⟩ := Appeal.verdict_eq_opened.mp hverdict
    rw [Appeal.record, (h appeal.job).dedup, pool.length_jury]
    exact hsize

/-- A pool that is made of any validators and that any others are added to. All its juries have
different members, and all its disputes enough of them, exactly when the validators of its start are
apart by the length of a jury; whatever this length is, exactly when none of them is given twice. -/
theorem jurors_differ_iff {validators : List Address} (h : validators.length ≤ 2 ^ 64)
    (size : ℕ) :
    let pool (added : List Address) := ValidatorPool.addAll ⟨validators, size⟩ added
    ((∀ added job, ((pool added).jury job).Nodup) ↔ Apart size validators) ∧
      ((∀ added, SeatsEnough (pool added)) ↔ Apart size validators) ∧
      ((∀ distance, Apart distance validators) ↔ validators.Nodup) := by
  intro pool
  have hdiffer : (∀ added job, ((pool added).jury job).Nodup) ↔ Apart size validators :=
    ValidatorPool.nodup_jury_addAll_iff ⟨validators, size⟩ h
  refine ⟨hdiffer, ?_, ValidatorPool.forall_apart_iff⟩
  simp only [seatsEnough_iff]
  exact hdiffer

/-- The validator that is given twice is as far from itself as juries are long. -/
theorem jurors_differ_iff_spaced :
    let first := Address.filled 0xAA
    let validators := [first, Address.filled 0xBB, first, Address.filled 0xCC]
    let pool (added : List Address) := ValidatorPool.addAll ⟨validators, 2⟩ added
    validators.length ≤ 2 ^ 64 ∧ ¬validators.Nodup ∧
      (∀ added job, ((pool added).jury job).Nodup) ∧ ∀ added, SeatsEnough (pool added) := by
  intro first validators pool
  have hlength : validators.length ≤ 2 ^ 64 := by
    rw [show validators.length = 4 from rfl]
    omega
  have hapart : Apart 2 validators := by decide +kernel
  obtain ⟨hmembers, hseats, -⟩ := jurors_differ_iff hlength 2
  exact ⟨hlength, by decide, hmembers.mpr hapart, hseats.mpr hapart⟩

/-- A validator that is given twice is a jury of two all by itself. -/
theorem juror_seated_twice :
    let appellant := Address.filled 0xAA
    let validator := Address.filled 0xAB
    let pool : ValidatorPool := ⟨[validator, validator], 2⟩
    let settings : Settings := ⟨Amount.zero, 2, Address.filled 0x1D, Address.filled 0xE5⟩
    let before := Site.start (Resolver.make (Address.filled 0xA1) settings .pool .registry)
      Ledger.empty
    let job := JobId.ofNat 7
    let answer := ((Resolver.perform (.overPool pool fun job => .error (.unknownJob job)) appellant
      (.raise job Amount.zero)).run before).1
    ¬(pool.jury job).Nodup ∧
      answer = .ok (.opened ⟨appellant, Amount.zero, [validator, validator]⟩) ∧
      [validator, validator].dedup.length < before.state.minJurySize := by
  decide +kernel

end Integrity.Dispute
