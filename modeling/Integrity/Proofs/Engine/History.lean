import Integrity.Engine.Basic

/-! # Histories of an engine -/

namespace Integrity.Engine

/-- An engine that nothing is noted of stays as it is. -/
theorem note_nil (engine : Engine) (now : Timestamp) : engine.note now [] [] = engine := by
  obtain ⟨temperature, audit, disputes, log, metrics, collaborators⟩ := engine
  simp only [note, observe, EventLog.append, EventLog.recordsFrom, List.append_nil]
  cases metrics <;> rfl

/-- An action of a history: the engine that it met, and how it ended. -/
structure Entry where
  before : Engine
  action : Action
  result : Except Failure Answer

/-- The history of actions that are carried out one after the other, at the times that a clock
shows. -/
def history (engine : Engine) (clock : Nat → Timestamp) : List Action → List Entry
  | [] => []
  | action :: rest =>
    ⟨engine, action, (engine.act (clock 0) action).2⟩ ::
      history (engine.act (clock 0) action).1 (fun n => clock (n + 1)) rest

/-- The engine after those actions. -/
def after (engine : Engine) (clock : Nat → Timestamp) : List Action → Engine
  | [] => engine
  | action :: rest => after (engine.act (clock 0) action).1 (fun n => clock (n + 1)) rest

end Integrity.Engine
