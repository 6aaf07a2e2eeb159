import Integrity.Proofs.Engine.Build
import Integrity.Proofs.Engine.History
import Integrity.Proofs.Engine.Lane

/-! # Subsystems go their ways whatever the interleaving

What happens in the lane of a subsystem is what would happen there without any actions for the other
subsystems. So it is the same however the actions are interleaved; only the order of the log
differs. -/

namespace Integrity.Engine

/-! ## One lane of a history -/

/-- The actions for a subsystem, in order. -/
def actionsFor (subsystem : Subsystem) (actions : List Action) : List Action :=
  actions.filter fun action => action.lane = subsystem

/-- What the actions for a subsystem came to, in order. -/
def results (engine : Engine) (clock : Nat → Timestamp) (actions : List Action)
    (subsystem : Subsystem) : List (Except Failure Answer) :=
  ((engine.history clock actions).filter fun entry => entry.action.lane = subsystem).map
    Entry.result

theorem results_cons_own (engine : Engine) (clock : Nat → Timestamp) (action : Action)
    (rest : List Action) :
    engine.results clock (action :: rest) action.lane =
      (engine.act (clock 0) action).2 ::
        (engine.act (clock 0) action).1.results (fun n => clock (n + 1)) rest action.lane := by
  rw [results, history, List.filter_cons_of_pos (by simp)]
  rfl

theorem results_cons_other (engine : Engine) (clock : Nat → Timestamp) {action : Action}
    (rest : List Action) {subsystem : Subsystem} (h : action.lane ≠ subsystem) :
    engine.results clock (action :: rest) subsystem =
      (engine.act (clock 0) action).1.results (fun n => clock (n + 1)) rest subsystem := by
  rw [results, history, List.filter_cons_of_neg (by simpa using h)]
  rfl

/-- The actions for all other subsystems can be left out of a history: the lane ends the same, and
its actions come to the same. -/
theorem lane_after_actionsFor {engine engine' : Engine} {subsystem : Subsystem}
    (h : engine.lane subsystem = engine'.lane subsystem) (clock clock' : Nat → Timestamp)
    (actions : List Action) :
    (engine.after clock actions).lane subsystem =
        (engine'.after clock' (actionsFor subsystem actions)).lane subsystem ∧
      engine.results clock actions subsystem =
        engine'.results clock' (actionsFor subsystem actions) subsystem := by
  induction actions generalizing engine engine' clock clock' with
  | nil => exact ⟨h, rfl⟩
  | cons action rest ih =>
      by_cases hlane : action.lane = subsystem
      · subst hlane
        obtain ⟨hresult, hnext⟩ := act_congr (clock 0) (clock' 0) h
        obtain ⟨hends, hresults⟩ := ih hnext (fun n => clock (n + 1)) fun n => clock' (n + 1)
        rw [actionsFor, List.filter_cons_of_pos (by simp), ← actionsFor]
        refine ⟨hends, ?_⟩
        rw [results_cons_own, results_cons_own, hresult, hresults]
      · -- The shorter history stands still here, so from now on the engines need only agree in the
        -- lane, and the clocks show different times.
        have hnext := (lane_act_other engine (clock 0) hlane).trans h
        obtain ⟨hends, hresults⟩ := ih hnext (fun n => clock (n + 1)) clock'
        rw [actionsFor, List.filter_cons_of_neg (by simpa using hlane), ← actionsFor]
        refine ⟨hends, ?_⟩
        rw [results_cons_other engine clock rest hlane, hresults]

/-! ## The log along a history -/

/-- The second part of a history goes on where the first has left the engine and the clock. -/
theorem after_append (engine : Engine) (clock : Nat → Timestamp) (first second : List Action) :
    engine.after clock (first ++ second) =
      (engine.after clock first).after (fun n => clock (n + first.length)) second := by
  induction first generalizing engine clock with
  | nil => rfl
  | cons action rest ih => exact ih (engine.act (clock 0) action).1 fun n => clock (n + 1)

/-- The log of a history, from its beginning on: its records have their places for their numbers,
nothing that was written is ever changed, each record is in the history of one subsystem, and every
action writes of its own subsystem. -/
structure Chronicle (engine : Engine) (clock : Nat → Timestamp) (actions : List Action) : Prop where
  consecutive : (engine.after clock actions).log.Consecutive
  grows : ∀ first second, actions = first ++ second →
    (engine.after clock first).log.records <+: (engine.after clock actions).log.records
  divided : (Subsystem.all.flatMap (engine.after clock actions).log.historyOf).Perm
    (engine.after clock actions).log.records
  owned : ∀ first action second, actions = first ++ action :: second →
    ∃ events, (engine.after clock (first ++ [action])).log.events =
        (engine.after clock first).log.events ++ events ∧
      ∀ event ∈ events, event.subsystem = action.lane

theorem consecutive_after {engine : Engine} (h : engine.log.Consecutive) (clock : Nat → Timestamp)
    (actions : List Action) : (engine.after clock actions).log.Consecutive := by
  induction actions generalizing engine clock with
  | nil => exact h
  | cons action rest ih =>
      obtain ⟨events, hlog, -⟩ := act_log engine (clock 0) action
      apply ih
      rw [hlog]
      exact h.append (clock 0) events

theorem prefix_after (engine : Engine) (clock : Nat → Timestamp) (actions : List Action) :
    engine.log.records <+: (engine.after clock actions).log.records := by
  induction actions generalizing engine clock with
  | nil => exact List.prefix_rfl
  | cons action rest ih =>
      obtain ⟨events, hlog, -⟩ := act_log engine (clock 0) action
      have hfirst := engine.log.prefix_append (clock 0) events
      rw [← hlog] at hfirst
      exact hfirst.trans (ih (engine.act (clock 0) action).1 fun n => clock (n + 1))

theorem chronicle {engine : Engine} (h : engine.log.Consecutive) (clock : Nat → Timestamp)
    (actions : List Action) : engine.Chronicle clock actions where
  consecutive := consecutive_after h clock actions
  grows := by
    rintro first second rfl
    rw [after_append]
    exact prefix_after _ _ second
  divided := (engine.after clock actions).log.perm_historyOf
  owned := by
    intro first action second _
    rw [after_append]
    obtain ⟨events, hlog, howned⟩ :=
      act_log (engine.after clock first) (clock (0 + first.length)) action
    refine ⟨events, ?_, howned⟩
    rw [after, after, hlog, EventLog.events_append]

/-! ## Two interleavings -/

/-- The actions are those of the subsystems, each in its order. -/
def Interleaves (sequences : Subsystem → List Action) (actions : List Action) : Prop :=
  ∀ subsystem, actionsFor subsystem actions = sequences subsystem

/-- Take any sequence of actions for each subsystem, and interleave them in two ways, at whatever
times. Every action comes to the same; the engines that are left differ in nothing but the order of
their logs, which tell the same of each subsystem, in the same order. And both logs are chronicles
of what was done. -/
theorem interleaved_after {engine : Engine} (hlog : engine.log = EventLog.empty)
    {sequences : Subsystem → List Action} {actions actions' : List Action}
    (h : Interleaves sequences actions) (h' : Interleaves sequences actions')
    (clock clock' : Nat → Timestamp) :
    let later := engine.after clock actions
    let later' := engine.after clock' actions'
    (∀ subsystem,
      engine.results clock actions subsystem = engine.results clock' actions' subsystem) ∧
    { later with log := later'.log } = later' ∧
    (∀ subsystem, later.log.eventsOf subsystem = later'.log.eventsOf subsystem) ∧
    engine.Chronicle clock actions ∧ engine.Chronicle clock' actions' := by
  intro later later'
  have hlanes : ∀ subsystem, later.lane subsystem = later'.lane subsystem ∧
      engine.results clock actions subsystem = engine.results clock' actions' subsystem := by
    intro subsystem
    have hown := lane_after_actionsFor (Eq.refl (engine.lane subsystem)) clock clock actions
    have hown' := lane_after_actionsFor (Eq.refl (engine.lane subsystem)) clock' clock actions'
    rw [h subsystem] at hown
    rw [h' subsystem] at hown'
    obtain ⟨hends, hresults⟩ := hown
    obtain ⟨hends', hresults'⟩ := hown'
    exact ⟨hends.trans hends'.symm, hresults.trans hresults'.symm⟩
  have hconsecutive : engine.log.Consecutive := by
    rw [hlog]
    exact EventLog.consecutive_empty
  refine ⟨fun subsystem => (hlanes subsystem).2, eq_of_lane fun subsystem => (hlanes subsystem).1,
    ?_, chronicle hconsecutive clock actions, chronicle hconsecutive clock' actions'⟩
  intro subsystem
  exact (Lane.mk.inj (hlanes subsystem).1).2.1

/-- The disputes come last or in the midst of all else: the logs differ, and nothing besides. -/
theorem interleaved_after_midst :
    let holder := Address.filled 0xA1
    let agent := Address.filled 0xAB
    let job := JobId.ofNat 7
    let bond := Amount.ofNat 10
    let engine := entrusted holder [holder] (Amount.ofNat 5) bond true false
    let control : List Action := [
      .temperature holder (.tick ⟨-90, 0, 0⟩),
      .temperature holder (.transferAuthority agent)]
    let audits : List Action := [
      .setScore agent 100,
      .audit holder (.finalize job agent true Word.zero),
      .audit holder (.record job false "late")]
    let disputes : List Action := [
      .credit agent bond,
      .dispute agent (.raise job bond),
      .dispute agent (.resolve job false)]
    let sequences : Subsystem → List Action := fun
      | .temperature => control
      | .audit => audits
      | .disputes => disputes
    let actions := control ++ audits ++ disputes
    let actions' := audits.take 2 ++ control.take 1 ++ disputes ++ audits.drop 2 ++ control.drop 1
    let later := engine.after (fun _ => default) actions
    let later' := engine.after (fun _ => default) actions'
    engine.log = EventLog.empty ∧ Interleaves sequences actions ∧ Interleaves sequences actions' ∧
      later.log.size = 6 ∧ later.log.events ≠ later'.log.events ∧
      (∀ subsystem, later.log.eventsOf subsystem = later'.log.eventsOf subsystem) ∧
      { later with log := later'.log } = later' := by
  intro holder agent job bond engine control audits disputes sequences actions
    actions' later later'
  have hlog : engine.log = EventLog.empty := rfl
  have hfirst : Interleaves sequences actions := by
    intro subsystem
    cases subsystem <;> rfl
  have hsecond : Interleaves sequences actions' := by
    intro subsystem
    cases subsystem <;> rfl
  obtain ⟨-, hends, hevents, -, -⟩ :=
    interleaved_after hlog hfirst hsecond (fun _ => default) fun _ => default
  exact ⟨hlog, hfirst, hsecond, by decide +kernel, by decide +kernel, hevents, hends⟩

end Integrity.Engine
