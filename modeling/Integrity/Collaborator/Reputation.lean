import Integrity.Collaborator.Error
import Integrity.Table

/-!
# The reputation book

Scores of agents, and every penalty that has been taken from them. While the book is offline it
refuses penalties.
-/

namespace Integrity

/-- Scores of agents and the penalties taken from them. -/
structure ReputationBook where
  scores : Table Address Nat
  penalties : List (Address × Amount)
  offline : Bool
deriving DecidableEq

namespace ReputationBook

/-- A book without scores. -/
def empty : ReputationBook :=
  ⟨Table.empty, [], false⟩

instance : Inhabited ReputationBook :=
  ⟨empty⟩

/-- The score of an agent. -/
def score (book : ReputationBook) (agent : Address) : Nat :=
  (book.scores.get? agent).getD 0

/-- Sets the score of an agent. -/
def setScore (book : ReputationBook) (agent : Address) (score : Nat) : ReputationBook :=
  { book with scores := book.scores.insert agent score }

/-- Takes the book offline or brings it back. -/
def setOffline (book : ReputationBook) (offline : Bool) : ReputationBook :=
  { book with offline }

/-- Takes a penalty from an agent, whose score does not fall below zero. -/
def subtract (book : ReputationBook) (agent : Address) (amount : Amount) :
    Except CollaboratorError ReputationBook :=
  if book.offline then .error (.unavailable "reputation engine offline")
  else
    .ok
      { book with
        scores := book.scores.insert agent (book.score agent - amount.units)
        penalties := book.penalties ++ [(agent, amount)] }

end ReputationBook

end Integrity
