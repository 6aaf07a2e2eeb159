/-! # Tallies

A measure of each entry of a list, added up. Events, operations and penalties are tallied as they
come, so the end of a list matters as much as its head. -/

namespace Integrity

variable {α : Type}

/-- The sum of a measure over the entries of a list. -/
def tally (measure : α → Nat) : List α → Nat
  | [] => 0
  | a :: rest => measure a + tally measure rest

@[simp]
theorem tally_nil (measure : α → Nat) : tally measure [] = 0 :=
  rfl

@[simp]
theorem tally_cons (measure : α → Nat) (a : α) (rest : List α) :
    tally measure (a :: rest) = measure a + tally measure rest :=
  rfl

@[simp]
theorem tally_append (measure : α → Nat) (first second : List α) :
    tally measure (first ++ second) = tally measure first + tally measure second := by
  induction first with
  | nil => exact (Nat.zero_add _).symm
  | cons a rest ih => simp only [List.cons_append, tally_cons, ih, Nat.add_assoc]

/-! ## Counts -/

theorem countP_cons_eq (p : α → Bool) (item : α) (items : List α) :
    (item :: items).countP p = (p item).toNat + items.countP p := by
  rw [List.countP_cons, Nat.add_comm]
  cases p item <;> rfl

theorem countP_concat (p : α → Bool) (items : List α) (item : α) :
    (items ++ [item]).countP p = items.countP p + (p item).toNat := by
  rw [List.countP_append, List.countP_singleton]
  cases p item <;> rfl

end Integrity
