import Integrity.Collaborator.Reputation
import Integrity.Proofs.Tally

/-! # Scores and penalties

What each change of the reputation book does to the score of an agent and to the list of
penalties. -/

namespace Integrity.ReputationBook

/-- What penalties cost an agent together. -/
def costs (agent : Address) (penalties : List (Address × Amount)) : Nat :=
  tally (fun (payer, amount) => if payer = agent then amount.units else 0) penalties

theorem score_setScore (book : ReputationBook) (agent other : Address) (score : Nat) :
    (book.setScore agent score).score other =
      if agent = other then score else book.score other := by
  simp only [ReputationBook.score, setScore, Table.get?_insert]
  split <;> rfl

theorem subtract_eq_ok {book after : ReputationBook} {agent : Address} {amount : Amount} :
    book.subtract agent amount = .ok after ↔
      book.offline = false ∧
        after =
          { book with
            scores := book.scores.insert agent (book.score agent - amount.units)
            penalties := book.penalties ++ [(agent, amount)] } := by
  simp only [subtract]
  cases book.offline <;> simp [eq_comm]

theorem penalties_of_subtract {book after : ReputationBook} {agent : Address} {amount : Amount}
    (h : book.subtract agent amount = .ok after) :
    after.penalties = book.penalties ++ [(agent, amount)] := by
  obtain ⟨-, rfl⟩ := subtract_eq_ok.mp h
  rfl

theorem score_of_subtract {book after : ReputationBook} {agent : Address} {amount : Amount}
    (h : book.subtract agent amount = .ok after) (other : Address) :
    after.score other = book.score other - costs other [(agent, amount)] := by
  obtain ⟨-, rfl⟩ := subtract_eq_ok.mp h
  simp only [score, Table.get?_insert, costs]
  by_cases hagent : agent = other
  · subst hagent
    simp
  · simp [hagent]

/-- From one book to another only penalties were taken, as far as the score of an agent shows. -/
def OnlyPenalized (agent : Address) (book after : ReputationBook) : Prop :=
  ∃ later, after.penalties = book.penalties ++ later ∧
    after.score agent = book.score agent - costs agent later

theorem OnlyPenalized.refl (agent : Address) (book : ReputationBook) :
    OnlyPenalized agent book book :=
  ⟨[], by simp, by simp [costs]⟩

/-- A score does not fall below zero, so that costs may be taken one after the other or together. -/
theorem OnlyPenalized.trans {agent : Address} {book middle after : ReputationBook}
    (h : OnlyPenalized agent book middle) (h' : OnlyPenalized agent middle after) :
    OnlyPenalized agent book after := by
  obtain ⟨first, hfirst, hscore⟩ := h
  obtain ⟨second, hsecond, hscore'⟩ := h'
  refine ⟨first ++ second, ?_, ?_⟩
  · rw [hsecond, hfirst, List.append_assoc]
  · rw [hscore', hscore, Nat.sub_sub, costs, costs, costs, tally_append]

theorem onlyPenalized_of_subtract {book after : ReputationBook} {agent : Address}
    {amount : Amount} (h : book.subtract agent amount = .ok after) (other : Address) :
    OnlyPenalized other book after :=
  ⟨[(agent, amount)], penalties_of_subtract h, score_of_subtract h other⟩

end Integrity.ReputationBook
