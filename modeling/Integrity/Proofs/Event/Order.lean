import Integrity.Event.Log
import Mathlib.Data.List.Induction

/-! # The order of events

A rule about events may ask of each that it fits what came before it. Such a rule is checked of a
longer sequence by looking only at the events that were added. -/

namespace Integrity

/-- Each event of a sequence fits, by a rule, what came before it. -/
def Orderly (rule : List Event → Event → Prop) (events : List Event) : Prop :=
  ∀ before event after, events = before ++ event :: after → rule before event

theorem orderly_nil (rule : List Event → Event → Prop) : Orderly rule [] := by
  intro before event after h
  simp at h

/-- Events that fit by themselves fit wherever they come. -/
theorem orderly_of_forall_mem {rule : List Event → Event → Prop} {events : List Event}
    (h : ∀ event ∈ events, ∀ before, rule before event) : Orderly rule events := by
  rintro before event after rfl
  exact h event (by simp) before

theorem orderly_cons {rule : List Event → Event → Prop} {first : Event} {rest : List Event} :
    Orderly rule (first :: rest) ↔
      rule [] first ∧ Orderly (fun before => rule (first :: before)) rest := by
  constructor
  · intro h
    refine ⟨h [] first rest rfl, ?_⟩
    intro before event after hrest
    exact h (first :: before) event after (by rw [hrest, List.cons_append])
  · rintro ⟨hfirst, hrest⟩ before event after hsplit
    cases before with
    | nil =>
        obtain ⟨rfl, -⟩ := List.cons.inj hsplit
        exact hfirst
    | cons head before =>
        obtain ⟨rfl, htail⟩ := List.cons.inj hsplit
        exact hrest before event after htail

theorem orderly_append {rule : List Event → Event → Prop} {first second : List Event} :
    Orderly rule (first ++ second) ↔
      Orderly rule first ∧ Orderly (fun before => rule (first ++ before)) second := by
  induction first generalizing rule with
  | nil => simp [orderly_nil]
  | cons event rest ih => simp only [List.cons_append, orderly_cons, ih, and_assoc]

theorem orderly_concat {rule : List Event → Event → Prop} {events : List Event} {event : Event} :
    Orderly rule (events ++ [event]) ↔ Orderly rule events ∧ rule events event := by
  simp [orderly_append, orderly_cons, orderly_nil]

theorem Orderly.mono {rule other : List Event → Event → Prop} {events : List Event}
    (h : Orderly rule events) (himp : ∀ before event, rule before event → other before event) :
    Orderly other events :=
  fun before event after hsplit => himp before event (h before event after hsplit)

/-! ## Once for each mark -/

/-- There is a mark among the events, and nothing of a kind has come since the last one. -/
def ClearSince (mark kind : Event → Bool) (events : List Event) : Prop :=
  ∃ earlier event later, events = earlier ++ event :: later ∧ mark event = true ∧
    ∀ other ∈ later, mark other = false ∧ kind other = false

/-- When an element is not among the last of a list, these all come after it. -/
theorem mem_of_append_eq {α : Type} {before between earlier later : List α} {a : α}
    (h : before ++ between = earlier ++ a :: later) (ha : a ∉ between) :
    ∀ x ∈ between, x ∈ later := by
  intro x hx
  rcases List.append_eq_append_iff.mp h with ⟨middle, -, rfl⟩ | ⟨middle, -, hmiddle⟩
  · exact absurd (by simp) ha
  · cases middle with
    | nil =>
        rw [List.nil_append] at hmiddle
        subst hmiddle
        exact absurd List.mem_cons_self ha
    | cons head middle =>
        obtain ⟨-, rfl⟩ := List.cons.inj hmiddle
        exact List.mem_append_right _ hx

/-- When nothing of a kind comes unless the events are clear of it since the last mark, it comes at
most once for each mark. -/
theorem countP_le_one_of_orderly {mark kind : Event → Bool} {events : List Event}
    (h : Orderly (fun before event => kind event = true → ClearSince mark kind before) events)
    {before between after : List Event} (hsplit : events = before ++ between ++ after)
    (hbetween : ∀ event ∈ between, mark event = false) : between.countP kind ≤ 1 := by
  induction between using List.reverseRecOn generalizing after with
  | nil => exact Nat.zero_le 1
  | append_singleton between event ih =>
      have hearlier : ∀ other ∈ between, mark other = false := by
        intro other hother
        exact hbetween other (List.mem_append_left _ hother)
      rw [List.countP_append, List.countP_singleton]
      cases hevent : kind event with
      | false =>
          have hshorter : events = before ++ between ++ event :: after := by simpa using hsplit
          simpa using ih hshorter hearlier
      | true =>
          -- Nothing of the kind has come since the last mark, which comes before all of these.
          obtain ⟨earlier, last, later, heq, hmark, hlater⟩ :=
            h (before ++ between) event after (by simpa using hsplit) hevent
          have hafter := mem_of_append_eq heq (fun hmem => by
            rw [hearlier last hmem] at hmark
            cases hmark)
          have hzero : between.countP kind = 0 := by
            rw [List.countP_eq_zero]
            intro other hother
            simp [(hlater other (hafter other hother)).2]
          simp [hzero]

end Integrity
