import Integrity.Proofs.Validators.Rotation
import Mathlib.Algebra.BigOperators.Group.Finset.Piecewise
import Mathlib.Data.Nat.Count
import Mathlib.Data.Nat.ModEq

/-! # Fair juries

The seats of a jury are filled from places that follow each other round the list of validators. From
one job to the next every seat moves on by one place. So over as many jobs as there are places a
seat meets every place once, and every place is met as often as a jury has seats. -/

namespace Integrity.ValidatorPool

open Finset

/-! ## Places round a list -/

/-- The places that fill so many seats, going round a list of a length from a start on. -/
def round (size length start : ℕ) : List ℕ :=
  (List.range size).map fun i => (start + i) % length

theorem round_succ (size length start : ℕ) :
    round (size + 1) length start = round size length start ++ [(start + size) % length] := by
  rw [round, List.range_succ, List.map_append]
  rfl

theorem getElem?_round {size i : ℕ} (h : i < size) (length start : ℕ) :
    (round size length start)[i]? = some ((start + i) % length) := by
  rw [round, List.getElem?_map, List.getElem?_range h, Option.map_some]

/-- Up to once round the list, no place comes again. -/
theorem nodup_round {size length : ℕ} (h : size ≤ length) (start : ℕ) :
    (round size length start).Nodup := by
  apply List.Nodup.map_on _ List.nodup_range
  intro i hi j hj hsame
  rw [List.mem_range] at hi hj
  have hmod : Nat.ModEq length i j := Nat.ModEq.add_left_cancel' start hsame
  exact hmod.eq_of_lt_of_lt (by omega) (by omega)

/-! ## What a seat meets -/

section Windows

variable (meets : ℕ → Prop) [DecidablePred meets]

/-- A place that moves on round a list meets every place of it once, wherever it starts. -/
theorem count_window (length start : ℕ) :
    Nat.count (fun d => meets ((start + d) % length)) length = Nat.count meets length := by
  induction start with
  | zero =>
      simp only [Nat.zero_add, Nat.count_eq_card_filter_range]
      congr 1
      apply filter_congr
      intro d hd
      rw [Nat.mod_eq_of_lt (mem_range.mp hd)]
  | succ start ih =>
      -- The window leaves the place it started from, and comes to it again at its end.
      have hbefore := Nat.count_add (fun d => meets (d % length)) start length
      have hafter := Nat.count_add (fun d => meets (d % length)) (start + 1) length
      have hfirst := Nat.count_succ (fun d => meets (d % length)) start
      have hlast := Nat.count_succ (fun d => meets (d % length)) (start + length)
      rw [Nat.add_right_comm, hlast] at hafter
      simp only [Nat.add_mod_right] at hafter
      omega

/-- The seats of a whole window together meet every place once for each seat. -/
theorem sum_countP_round (size length first : ℕ) :
    ∑ d ∈ range length, (round size length (first + d)).countP (fun place => meets place) =
      size * Nat.count meets length := by
  induction size with
  | zero => simp [round]
  | succ size ih =>
      have hlast : ∑ d ∈ range length,
          [(first + d + size) % length].countP (fun place => meets place) =
            Nat.count meets length := by
        rw [← count_window meets length (first + size), Nat.count_eq_card_filter_range,
          Finset.card_filter]
        simp only [List.countP_singleton, decide_eq_true_eq, Nat.add_right_comm]
      simp only [round_succ, List.countP_append]
      rw [sum_add_distrib, ih, hlast, Nat.succ_mul]

end Windows

/-! ## Juries -/

/-- The places that fill a jury, one for each seat. -/
def places (pool : ValidatorPool) (job : JobId) : List ℕ :=
  round (min pool.jurySize pool.validators.length) pool.validators.length job.toNat

theorem getElem?_places {pool : ValidatorPool} {i : ℕ}
    (h : i < min pool.jurySize pool.validators.length) (job : JobId) :
    (pool.places job)[i]? = some ((job.toNat + i) % pool.validators.length) :=
  getElem?_round h _ _

/-- A jury consists of the validators at its places. -/
theorem jury_eq_places (pool : ValidatorPool) (job : JobId) :
    (pool.jury job).map some = (pool.places job).map fun place => pool.validators[place]? := by
  apply List.ext_getElem
  · rw [List.length_map, List.length_map, length_jury, places, round, List.length_map,
      List.length_range]
  · intro i hi _
    rw [List.length_map, length_jury] at hi
    have hmember := getElem?_jury hi job
    have hplace := getElem?_places hi job
    rw [List.getElem_map, List.getElem_map, ← List.getElem?_eq_getElem, hmember]
    rw [List.getElem?_eq_some_iff] at hplace
    obtain ⟨_, hplace⟩ := hplace
    rw [hplace]

theorem nodup_places (pool : ValidatorPool) (job : JobId) : (pool.places job).Nodup :=
  nodup_round (Nat.min_le_right _ _) _

theorem count_jury (pool : ValidatorPool) (job : JobId) (validator : Address) :
    (pool.jury job).count validator =
      (pool.places job).countP fun place => pool.validators[place]? = some validator := by
  have hjury := congrArg (List.count (some validator)) (pool.jury_eq_places job)
  rw [List.count_map_of_injective _ _ (Option.some_injective _)] at hjury
  rw [hjury, List.count_eq_countP, List.countP_map]
  exact List.countP_congr fun place _ => by simp

theorem count_places_of (validators : List Address) (validator : Address) :
    Nat.count (fun place => validators[place]? = some validator) validators.length =
      validators.count validator := by
  induction validators with
  | nil => rfl
  | cons first rest ih =>
      rw [List.length_cons, Nat.count_succ', List.count_cons]
      simp only [List.getElem?_cons_succ, List.getElem?_cons_zero, Option.some_inj, beq_iff_eq]
      rw [ih]

/-! ## Windows of jobs -/

theorem places_ofNat {job : ℕ} (h : job < 2 ^ 64) (pool : ValidatorPool) :
    pool.places (JobId.ofNat job) =
      round (min pool.jurySize pool.validators.length) pool.validators.length job := by
  have hjob : (JobId.ofNat job).toNat = job := UInt64.toNat_ofNat_of_lt' h
  rw [places, hjob]

/-- Over as many jobs in a row as there are validators, the places that are met. -/
theorem sum_countP_places {pool : ValidatorPool} {first : ℕ}
    (h : first + pool.validators.length ≤ 2 ^ 64) (meets : ℕ → Prop) [DecidablePred meets] :
    ∑ d ∈ range pool.validators.length,
        (pool.places (JobId.ofNat (first + d))).countP (fun place => meets place) =
      min pool.jurySize pool.validators.length * Nat.count meets pool.validators.length := by
  rw [← sum_countP_round]
  apply sum_congr rfl
  intro d hd
  rw [mem_range] at hd
  rw [places_ofNat (by omega)]

theorem count_serving {pool : ValidatorPool} {first : ℕ}
    (h : first + pool.validators.length ≤ 2 ^ 64) {place : ℕ}
    (hplace : place < pool.validators.length) :
    Nat.count (fun d => place ∈ pool.places (JobId.ofNat (first + d))) pool.validators.length =
      min pool.jurySize pool.validators.length := by
  have hsum := sum_countP_places h (fun other => other = place)
  have honce : Nat.count (fun other => other = place) pool.validators.length = 1 := by
    rw [Nat.count_eq_card_filter_range, filter_eq', if_pos (mem_range.mpr hplace),
      card_singleton]
  rw [honce, Nat.mul_one] at hsum
  rw [← hsum, Nat.count_eq_card_filter_range, Finset.card_filter]
  apply sum_congr rfl
  intro d _
  -- A place that fills a seat fills one only.
  rw [← (pool.nodup_places (JobId.ofNat (first + d))).count, List.count_eq_countP]
  exact List.countP_congr fun other _ => by simp

theorem sum_count_jury {pool : ValidatorPool} {first : ℕ}
    (h : first + pool.validators.length ≤ 2 ^ 64) (validator : Address) :
    ∑ d ∈ range pool.validators.length,
        (pool.jury (JobId.ofNat (first + d))).count validator =
      min pool.jurySize pool.validators.length * pool.validators.count validator := by
  simp only [count_jury]
  rw [sum_countP_places h, count_places_of]

/-- A jury has as many members as it can: the validators at the places that follow each other from
the number of the job on, of which none comes twice. Over as many jobs in a row as there are
validators every place serves on equally many juries, as many as a jury has members; and so a
validator has that many seats for each place that it holds. -/
theorem duty_rotates (pool : ValidatorPool) :
    let length := pool.validators.length
    let size := min pool.jurySize length
    (∀ job,
      (pool.jury job).length = size ∧
        (∀ i < size, (pool.jury job)[i]? = pool.validators[(job.toNat + i) % length]?) ∧
        (∀ i < size, (pool.places job)[i]? = some ((job.toNat + i) % length)) ∧
        ((pool.jury job).map some = (pool.places job).map fun place => pool.validators[place]?) ∧
        (pool.places job).Nodup) ∧
      ∀ first, first + length ≤ 2 ^ 64 →
        (∀ place < length,
          Nat.count (fun d => place ∈ pool.places (JobId.ofNat (first + d))) length = size) ∧
          ∀ validator, ∑ d ∈ range length,
            (pool.jury (JobId.ofNat (first + d))).count validator =
              size * pool.validators.count validator := by
  intro length size
  constructor
  · intro job
    exact ⟨length_jury pool job, fun i hi => getElem?_jury hi job,
      fun i hi => getElem?_places hi job, jury_eq_places pool job, nodup_places pool job⟩
  · intro first h
    exact ⟨fun place hplace => count_serving h hplace, sum_count_jury h⟩

/-- The jobs are the last ones there are, and one of the juries goes round the end of the list. -/
theorem duty_rotates_last :
    let validator := Address.filled 0xBB
    let validators := [Address.filled 0xAA, validator, Address.filled 0xCC]
    let pool : ValidatorPool := ⟨validators, 2⟩
    let first := 2 ^ 64 - 3
    let last := JobId.ofNat (first + 2)
    first + validators.length ≤ 2 ^ 64 ∧
      pool.jury last = [Address.filled 0xAA, validator] ∧
      Nat.count (fun d => 1 ∈ pool.places (JobId.ofNat (first + d))) 3 = 2 ∧
      ∑ d ∈ range 3, (pool.jury (JobId.ofNat (first + d))).count validator = 2 := by
  intro validator validators pool first last
  have hlength : first + validators.length ≤ 2 ^ 64 := by decide
  obtain ⟨-, hfair⟩ := duty_rotates pool
  obtain ⟨hplaces, hseats⟩ := hfair first hlength
  exact ⟨hlength, by decide +kernel, hplaces 1 (by decide), (hseats validator).trans (by decide)⟩

end Integrity.ValidatorPool
