import Integrity.Collaborator.ValidatorPool
import Mathlib.Algebra.Group.Nat.Defs
import Mathlib.Data.List.Rotate

/-! # Juries in turn

A jury is read off the list of validators, going round it from the place that the job picks. No
place serves twice on a jury. A validator may, when the list of the start holds it twice: then all
juries have different members exactly when no validator comes again within a jury's length, going
round. Adding validators never draws two places of one validator closer together. -/

namespace Integrity.ValidatorPool

/-! ## Places on a jury -/

section Cycled

variable {α : Type} {list : List α} (hlist : 0 < list.length)
include hlist

theorem length_cycled (count : ℕ) (ahead : List α) : (cycled list count ahead).length = count := by
  induction count generalizing ahead with
  | zero => rfl
  | succ count ih =>
    cases ahead with
    | cons next ahead => exact congrArg (· + 1) (ih ahead)
    | nil =>
      cases list with
      | nil => cases hlist
      | cons next ahead => exact congrArg (· + 1) (ih ahead)

/-- Whoever goes round a list from a place is at the next place after each step, modulo its
length. -/
theorem getElem?_cycled {count place i : ℕ} (hplace : place ≤ list.length) (hi : i < count) :
    (cycled list count (list.drop place))[i]? = list[(place + i) % list.length]? := by
  induction count generalizing place i with
  | zero => cases hi
  | succ count ih =>
    rcases Nat.lt_or_eq_of_le hplace with hbefore | rfl
    · rw [List.drop_eq_getElem_cons hbefore, cycled]
      cases i with
      | zero =>
        rw [List.getElem?_cons_zero, Nat.add_zero, Nat.mod_eq_of_lt hbefore,
          List.getElem?_eq_getElem hbefore]
      | succ i =>
        rw [List.getElem?_cons_succ, ih hbefore (Nat.lt_of_succ_lt_succ hi), Nat.succ_add_eq_add_succ]
    · -- The list is at its end, and is gone through from its first place again.
      have hagain : cycled list (count + 1) (list.drop list.length) =
          cycled list (count + 1) (list.drop 0) := by
        rw [List.drop_length, List.drop_zero]
        cases list with
        | nil => rfl
        | cons next ahead => rfl
      rw [hagain, List.drop_eq_getElem_cons hlist, cycled, Nat.add_mod_left]
      cases i with
      | zero =>
        rw [List.getElem?_cons_zero, Nat.zero_mod, List.getElem?_eq_getElem hlist]
      | succ i =>
        rw [List.getElem?_cons_succ, ih hlist (Nat.lt_of_succ_lt_succ hi)]
        exact congrArg (fun n => list[n % list.length]?) (Nat.add_comm 1 i)

end Cycled

/-- A jury is the beginning of the list that is rotated to its start. -/
theorem jury_eq (pool : ValidatorPool) (job : JobId) :
    pool.jury job = (pool.validators.rotate job.toNat).take pool.jurySize := by
  rw [jury]
  split
  · next hempty =>
    rw [List.isEmpty_iff.mp hempty, List.rotate_nil, List.take_nil]
  · next hsome =>
    have hlength : 0 < pool.validators.length :=
      List.length_pos_iff.mpr fun hnil => hsome (List.isEmpty_iff.mpr hnil)
    apply List.ext_getElem?
    intro i
    rw [List.getElem?_drop]
    by_cases hi : i < min pool.jurySize pool.validators.length
    · obtain ⟨hsize, hbefore⟩ := Nat.lt_min.mp hi
      have hcycled := getElem?_cycled hlength (Nat.zero_le _)
        (Nat.add_lt_add_left hi (pool.start job))
      rw [List.drop_zero] at hcycled
      rw [hcycled, List.getElem?_take_of_lt hsize, List.getElem?_rotate hbefore, Nat.zero_add,
        start, Nat.mod_add_mod, Nat.add_comm]
    · rw [List.getElem?_eq_none, List.getElem?_eq_none]
      · rw [List.length_take, List.length_rotate]
        exact Nat.le_of_not_lt hi
      · rw [length_cycled hlength]
        omega

theorem length_jury (pool : ValidatorPool) (job : JobId) :
    (pool.jury job).length = min pool.jurySize pool.validators.length := by
  rw [jury_eq, List.length_take, List.length_rotate]

/-- The members of a jury are those at its places, one after the other. -/
theorem getElem?_jury {pool : ValidatorPool} {i : ℕ}
    (h : i < min pool.jurySize pool.validators.length) (job : JobId) :
    (pool.jury job)[i]? = pool.validators[(job.toNat + i) % pool.validators.length]? := by
  obtain ⟨hsize, hlength⟩ := Nat.lt_min.mp h
  rw [jury_eq, List.getElem?_take_of_lt hsize, List.getElem?_rotate hlength, Nat.add_comm]

/-- Going round, a place comes after the start or, past the end, from the first place on. -/
theorem place_eq {start i length : ℕ} (h : i < length) :
    (start + i) % length =
      if start % length + i < length then start % length + i
      else start % length + i - length := by
  have hstart := Nat.mod_lt start (Nat.zero_lt_of_lt h)
  rw [← Nat.mod_add_mod]
  split
  · next hbefore => exact Nat.mod_eq_of_lt hbefore
  · rw [Nat.mod_eq_sub_mod (by omega), Nat.mod_eq_of_lt (by omega)]

/-! ## Validators in several places -/

/-- No validator comes again within so many places, going round the list. -/
def Apart (distance : ℕ) (validators : List Address) : Prop :=
  ∀ later < validators.length, ∀ earlier < later, validators[earlier]? = validators[later]? →
    distance ≤ later - earlier ∧ distance ≤ validators.length - (later - earlier)

instance (distance : ℕ) (validators : List Address) : Decidable (Apart distance validators) :=
  inferInstanceAs (Decidable (∀ later < _, ∀ earlier < later, _ → _))

theorem forall_apart_iff {validators : List Address} :
    (∀ distance, Apart distance validators) ↔ validators.Nodup := by
  rw [List.nodup_iff_getElem?_ne_getElem?]
  constructor
  · intro h earlier later hearlier hlater hsame
    obtain ⟨hfar, -⟩ := h validators.length later hlater earlier hearlier hsame
    omega
  · intro h distance later hlater earlier hearlier hsame
    exact absurd hsame (h earlier later hearlier hlater)

/-- Where validators are apart by the length of a jury, every jury has different members. -/
theorem Apart.nodup_jury {pool : ValidatorPool} (h : Apart pool.jurySize pool.validators)
    (job : JobId) : (pool.jury job).Nodup := by
  rw [List.nodup_iff_getElem?_ne_getElem?]
  intro i j hij hj hsame
  rw [length_jury] at hj
  obtain ⟨hsize, hlength⟩ := Nat.lt_min.mp hj
  have hstart := Nat.mod_lt job.toNat (Nat.zero_lt_of_lt hlength)
  rw [getElem?_jury (hij.trans hj), getElem?_jury hj, place_eq (hij.trans hlength),
    place_eq hlength] at hsame
  -- The later member may have passed the end; then the way between the two goes round it.
  by_cases hearlier : job.toNat % pool.validators.length + i < pool.validators.length
  · by_cases hlater : job.toNat % pool.validators.length + j < pool.validators.length
    · rw [if_pos hearlier, if_pos hlater] at hsame
      obtain ⟨hfar, -⟩ := h _ hlater _ (by omega) hsame
      omega
    · rw [if_pos hearlier, if_neg hlater] at hsame
      obtain ⟨-, hfar⟩ := h _ hearlier _ (by omega) hsame.symm
      omega
  · have hlater : ¬job.toNat % pool.validators.length + j < pool.validators.length := by omega
    rw [if_neg hearlier, if_neg hlater] at hsame
    obtain ⟨hfar, -⟩ := h _ (by omega) _ (by omega) hsame
    omega

/-- A jury that starts at a place has the validator of that place, and of each of the next. -/
theorem getElem?_jury_ofNat {pool : ValidatorPool} (hlength : pool.validators.length ≤ 2 ^ 64)
    {start i : ℕ} (hstart : start < pool.validators.length)
    (h : i < min pool.jurySize pool.validators.length) :
    (pool.jury (JobId.ofNat start))[i]? =
      pool.validators[(start + i) % pool.validators.length]? := by
  have hjob : (JobId.ofNat start).toNat = start :=
    UInt64.toNat_ofNat_of_lt' (Nat.lt_of_lt_of_le hstart hlength)
  rw [getElem?_jury h, hjob]

/-- If every jury has different members, validators are apart by the length of a jury: two places
that were closer would serve together when a jury starts at one of them. -/
theorem apart_of_nodup_jury {pool : ValidatorPool} (hlength : pool.validators.length ≤ 2 ^ 64)
    (h : ∀ job, (pool.jury job).Nodup) : Apart pool.jurySize pool.validators := by
  intro later hlater earlier hearlier hsame
  have hdiffer (start i : ℕ) (hstart : start < pool.validators.length) (hpos : 0 < i)
      (hi : i < min pool.jurySize pool.validators.length) :
      pool.validators[start]? ≠ pool.validators[(start + i) % pool.validators.length]? := by
    have hmembers := List.nodup_iff_getElem?_ne_getElem?.mp (h (JobId.ofNat start)) 0 i hpos
    rw [length_jury, getElem?_jury_ofNat hlength hstart (hpos.trans hi),
      getElem?_jury_ofNat hlength hstart hi, Nat.add_zero, Nat.mod_eq_of_lt hstart] at hmembers
    exact hmembers hi
  constructor
  · by_contra hclose
    have hmeets := hdiffer earlier (later - earlier) (hearlier.trans hlater) (by omega) (by omega)
    rw [Nat.add_sub_of_le hearlier.le, Nat.mod_eq_of_lt hlater] at hmeets
    exact hmeets hsame
  · by_contra hclose
    have hmeets := hdiffer later (pool.validators.length - (later - earlier)) hlater (by omega)
      (by omega)
    have hround : later + (pool.validators.length - (later - earlier)) =
        earlier + pool.validators.length := by omega
    rw [hround, Nat.add_mod_right, Nat.mod_eq_of_lt (hearlier.trans hlater)] at hmeets
    exact hmeets hsame.symm

/-! ## Adding validators -/

/-- The pool after validators were added, one after the other. -/
def addAll (pool : ValidatorPool) (added : List Address) : ValidatorPool :=
  added.foldl add pool

theorem jurySize_add (pool : ValidatorPool) (validator : Address) :
    (pool.add validator).jurySize = pool.jurySize := by
  rw [add]
  split <;> rfl

theorem Apart.add {pool : ValidatorPool} {distance : ℕ} (h : Apart distance pool.validators)
    (validator : Address) : Apart distance (pool.add validator).validators := by
  rw [ValidatorPool.add]
  split
  · exact h
  · next hnew =>
      intro later hlater earlier hearlier hsame
      rw [List.length_append, List.length_singleton] at hlater ⊢
      rw [List.getElem?_append_left (by omega)] at hsame
      by_cases hold : later < pool.validators.length
      · rw [List.getElem?_append_left hold] at hsame
        have hfar := h later hold earlier hearlier hsame
        omega
      · -- The last place holds the new validator, who stood nowhere before.
        obtain rfl : later = pool.validators.length := by omega
        rw [List.getElem?_concat_length] at hsame
        have hmem := List.mem_of_getElem? hsame
        simp [hmem] at hnew

theorem jurySize_addAll (pool : ValidatorPool) (added : List Address) :
    (pool.addAll added).jurySize = pool.jurySize := by
  induction added generalizing pool with
  | nil => rfl
  | cons validator rest ih => exact (ih (pool.add validator)).trans (jurySize_add pool validator)

theorem Apart.addAll {pool : ValidatorPool} {distance : ℕ} (h : Apart distance pool.validators)
    (added : List Address) : Apart distance (pool.addAll added).validators := by
  induction added generalizing pool with
  | nil => exact h
  | cons validator rest ih => exact ih (h.add validator)

/-- Whatever validators are added, every jury has different members exactly when validators are
apart by the length of a jury to begin with. -/
theorem nodup_jury_addAll_iff (pool : ValidatorPool)
    (hlength : pool.validators.length ≤ 2 ^ 64) :
    (∀ added job, ((pool.addAll added).jury job).Nodup) ↔
      Apart pool.jurySize pool.validators := by
  constructor
  · intro h
    exact apart_of_nodup_jury hlength (h [])
  · intro h added
    apply Apart.nodup_jury
    rw [jurySize_addAll]
    exact h.addAll added

end Integrity.ValidatorPool
