import Integrity.Proofs.Engine.Step
import Integrity.Proofs.Event.Numbering

/-! # Lanes

The three subsystems share an engine, and an action sees no more of it than one lane: a subsystem,
the collaborators that it works with, what the log tells of it and what the metrics show of it. And
it leaves the other lanes as they are. -/

namespace Integrity

open Operation

/-! ## The metrics of one subsystem -/

/-- The subsystem that a reading is of. -/
def Reading.subsystem : Reading → Subsystem
  | .temperature _ | .tickApplied | .tickRejected => .temperature
  | .auditScheduled | .auditRecorded | .penaltyApplied => .audit
  | .disputeRaised | .disputeResolved | .escrow _ => .disputes

/-- Readings of one subsystem are not of another. -/
theorem Reading.subsystem_ne {readings : List Reading} {subsystem other : Subsystem}
    (h : ∀ reading ∈ readings, reading.subsystem = subsystem) (hother : subsystem ≠ other) :
    ∀ reading ∈ readings, reading.subsystem ≠ other := by
  intro reading hreading
  rwa [h reading hreading]

namespace Metrics

/-- What the metrics show of a subsystem. -/
def shown (m : Metrics) : Subsystem → Int × Int × Int
  | .temperature => (m.temperature, m.ticks, m.rejectedTicks)
  | .audit => (m.auditsScheduled, m.auditsRecorded, m.penalties)
  | .disputes => (m.disputesRaised, m.disputesResolved, m.escrowedBonds)

theorem eq_of_shown {m m' : Metrics} (h : ∀ subsystem, m.shown subsystem = m'.shown subsystem) :
    m = m' := by
  have htemperature := h .temperature
  have haudit := h .audit
  have hdisputes := h .disputes
  cases m
  cases m'
  simp only [shown, Prod.mk.injEq, Int.natCast_inj] at htemperature haudit hdisputes
  simp only [htemperature, haudit, hdisputes]

theorem eq_of_map_shown {m m' : Option Metrics}
    (h : ∀ subsystem, m.map (fun m => m.shown subsystem) = m'.map fun m => m.shown subsystem) :
    m = m' := by
  cases m with
  | none => exact (Option.map_eq_none_iff.mp (h .temperature).symm).symm
  | some shown =>
      cases m' with
      | none => cases h .temperature
      | some shown' =>
          refine congrArg some (eq_of_shown ?_)
          intro subsystem
          exact Option.some.inj (h subsystem)

theorem shown_read_congr {m m' : Metrics} {subsystem : Subsystem}
    (h : m.shown subsystem = m'.shown subsystem) (reading : Reading) :
    (m.read reading).shown subsystem = (m'.read reading).shown subsystem := by
  cases subsystem <;> cases reading <;> simp_all [shown, read]

theorem shown_readAll_congr {m m' : Metrics} {subsystem : Subsystem}
    (h : m.shown subsystem = m'.shown subsystem) (readings : List Reading) :
    (m.readAll readings).shown subsystem = (m'.readAll readings).shown subsystem := by
  induction readings generalizing m m' with
  | nil => exact h
  | cons reading rest ih => exact ih (shown_read_congr h reading)

theorem map_shown_readAll_congr {m m' : Option Metrics} {subsystem : Subsystem}
    (h : m.map (fun m => m.shown subsystem) = m'.map fun m => m.shown subsystem)
    (readings : List Reading) :
    (m.map fun m => (m.readAll readings).shown subsystem) =
      m'.map fun m => (m.readAll readings).shown subsystem := by
  cases m with
  | none =>
      obtain rfl := Option.map_eq_none_iff.mp h.symm
      rfl
  | some shown =>
      cases m' with
      | none => cases h
      | some shown' => exact congrArg some (shown_readAll_congr (Option.some.inj h) readings)

theorem shown_read_other (m : Metrics) {reading : Reading} {subsystem : Subsystem}
    (h : reading.subsystem ≠ subsystem) : (m.read reading).shown subsystem = m.shown subsystem := by
  cases reading <;> cases subsystem <;> first | rfl | exact absurd rfl h

theorem shown_readAll_other (m : Metrics) {readings : List Reading} {subsystem : Subsystem}
    (h : ∀ reading ∈ readings, reading.subsystem ≠ subsystem) :
    (m.readAll readings).shown subsystem = m.shown subsystem := by
  induction readings generalizing m with
  | nil => rfl
  | cons reading rest ih =>
      obtain ⟨hfirst, hrest⟩ := List.forall_mem_cons.mp h
      exact (ih (m.read reading) hrest).trans (m.shown_read_other hfirst)

end Metrics

/-! ## What an operation tells the instruments -/

theorem Temperature.Step.reading_of_start {caller : Address} {command : Command}
    {answer : Except Error Answer} {c : Controller} {site : Site Controller Unit}
    (h : Step caller (.start c ()) command answer site) :
    ∀ reading ∈ site.readings, reading.subsystem = .temperature := by
  cases h <;>
    simp [Site.start, Controller.afterBounding, Controller.afterSetting,
      Controller.afterOverriding, Controller.afterTick, Controller.afterRefusal,
      Reading.subsystem]

theorem Audit.Step.reading_of_start {β : Type} {env : Environment β} {caller : Address}
    {command : Command} {answer : Except Error Answer} {s : Scheduler} {book : β}
    {site : Site Scheduler β} (h : Step env caller (.start s book) command answer site) :
    ∀ reading ∈ site.readings, reading.subsystem = .audit := by
  cases h with
  | @recorded job passed details found book hopen hcharge =>
      cases hpenalty : s.penaltyFor found passed <;>
        simp [Site.start, Scheduler.afterRecording, Scheduler.outcomeReadings, hpenalty,
          Reading.subsystem]
  | _ => simp [Site.start, Scheduler.afterPassing, Scheduler.afterScheduling, Reading.subsystem]

theorem Dispute.Step.reading_of_start {γ : Type} {env : Environment γ} {caller : Address}
    {command : Command} {answer : Except Error Answer} {r : Resolver} {ledger : γ}
    {site : Site Resolver γ} (h : Step env caller (.start r ledger) command answer site) :
    ∀ reading ∈ site.readings, reading.subsystem = .disputes := by
  cases h <;>
    simp [Site.start, Resolver.afterOpening, Resolver.afterClosing, Reading.subsystem]

/-! ## What is in a lane -/

namespace Engine

/-- The subsystem that an action is for. What is asked of a collaborator is for the subsystem that
works with it, and an event that is written into the log for the one that it belongs to. -/
def Action.lane : Action → Subsystem
  | .temperature _ _ => .temperature
  | .audit _ _ | .setScore _ _ | .subtract _ _ | .setOffline _ | .moveChain _ => .audit
  | .dispute _ _ | .credit _ _ | .freeze _ | .thaw _ | .transfer _ _ _ | .register _ _
  | .addValidator _ => .disputes
  | .emit event _ => event.subsystem

/-- A subsystem and the collaborators that it works with. -/
inductive Part where
  | temperature (controller : Option Temperature.Controller)
  | audit (scheduler : Option Audit.Scheduler) (book : ReputationBook) (chain : ChainSnapshot)
      (seeds : Audit.SeedSource)
  | disputes (resolver : Option Dispute.Resolver) (ledger : Ledger) (registry : JobRegistry)
      (pool : ValidatorPool)

/-- The part of an engine that is for a subsystem. -/
def part (engine : Engine) : Subsystem → Part
  | .temperature => .temperature engine.temperature
  | .audit =>
    .audit engine.audit engine.collaborators.book engine.collaborators.chain
      engine.collaborators.seeds
  | .disputes =>
    .disputes engine.disputes engine.collaborators.ledger engine.collaborators.registry
      engine.collaborators.pool

/-- All that is in the lane of a subsystem. -/
structure Lane where
  part : Part
  events : List Event
  shown : Option (Int × Int × Int)

/-- The lane of a subsystem. -/
def lane (engine : Engine) (subsystem : Subsystem) : Lane where
  part := engine.part subsystem
  events := engine.log.eventsOf subsystem
  shown := engine.metrics.map fun m => m.shown subsystem

/-- The lanes are all that there is to an engine, but for the order of the log. -/
theorem eq_of_lane {engine other : Engine}
    (h : ∀ subsystem, engine.lane subsystem = other.lane subsystem) :
    { engine with log := other.log } = other := by
  have hpart : ∀ subsystem, engine.part subsystem = other.part subsystem :=
    fun subsystem => (Lane.mk.inj (h subsystem)).1
  have hshown : ∀ subsystem, engine.metrics.map (fun m => m.shown subsystem) =
      other.metrics.map fun m => m.shown subsystem :=
    fun subsystem => (Lane.mk.inj (h subsystem)).2.2
  have htemperature := Part.temperature.inj (hpart .temperature)
  obtain ⟨haudit, hbook, hchain, hseeds⟩ := Part.audit.inj (hpart .audit)
  obtain ⟨hdisputes, hledger, hregistry, hpool⟩ := Part.disputes.inj (hpart .disputes)
  have hmetrics := Metrics.eq_of_map_shown hshown
  obtain ⟨temperature, audit, disputes, log, metrics, collaborators⟩ := engine
  obtain ⟨temperature', audit', disputes', log', metrics', collaborators'⟩ := other
  cases collaborators
  cases collaborators'
  simp_all

/-! ## An action in its own lane -/

section Own

variable {before before' : Engine} (now now' : Timestamp)

theorem lane_note_congr {subsystem : Subsystem} (h : before.lane subsystem = before'.lane subsystem)
    (events : List Event) (readings : List Reading) :
    (before.note now events readings).lane subsystem =
      (before'.note now' events readings).lane subsystem := by
  obtain ⟨hpart, hevents, hshown⟩ := Lane.mk.inj h
  simp only [lane, Lane.mk.injEq]
  refine ⟨?_, ?_, ?_⟩
  · cases subsystem <;> exact hpart
  · simp only [note, observe, EventLog.eventsOf_append, hevents]
  · simp only [note, observe, Option.map_map]
    exact Metrics.map_shown_readAll_congr hshown readings

theorem lane_withCollaborators_congr {subsystem : Subsystem}
    (h : before.lane subsystem = before'.lane subsystem) {c c' : Collaborators}
    (hpart : (before.withCollaborators c).part subsystem =
      (before'.withCollaborators c').part subsystem) :
    (before.withCollaborators c).lane subsystem =
      (before'.withCollaborators c').lane subsystem := by
  obtain ⟨-, hevents, hshown⟩ := Lane.mk.inj h
  rw [lane, lane, hpart]
  exact congrArg₂ _ hevents hshown

theorem actTemperature_congr (h : before.lane .temperature = before'.lane .temperature)
    (caller : Address) (command : Temperature.Command) :
    (before.actTemperature now caller command).2 = (before'.actTemperature now' caller command).2 ∧
      (before.actTemperature now caller command).1.lane .temperature =
        (before'.actTemperature now' caller command).1.lane .temperature := by
  obtain ⟨hpart, hevents, hshown⟩ := Lane.mk.inj h
  have htemperature := Part.temperature.inj hpart
  rw [actTemperature, actTemperature, ← htemperature]
  cases before.temperature with
  | none => exact ⟨rfl, h⟩
  | some c =>
      refine ⟨rfl, lane_note_congr now now' ?_ _ _⟩
      simp only [lane, part, hevents, hshown]

theorem actAudit_congr (h : before.lane .audit = before'.lane .audit) (caller : Address)
    (command : Audit.Command) :
    (before.actAudit now caller command).2 = (before'.actAudit now' caller command).2 ∧
      (before.actAudit now caller command).1.lane .audit =
        (before'.actAudit now' caller command).1.lane .audit := by
  obtain ⟨hpart, hevents, hshown⟩ := Lane.mk.inj h
  obtain ⟨haudit, hbook, hchain, hseeds⟩ := Part.audit.inj hpart
  have henv : auditEnvironment before.collaborators = auditEnvironment before'.collaborators := by
    rw [auditEnvironment, auditEnvironment, hchain, hseeds]
  rw [actAudit, actAudit, ← haudit, ← henv, ← hbook]
  cases before.audit with
  | none => exact ⟨rfl, h⟩
  | some s =>
      refine ⟨rfl, lane_note_congr now now' ?_ _ _⟩
      simp only [lane, part, hchain, hseeds, hevents, hshown]

theorem actDispute_congr (h : before.lane .disputes = before'.lane .disputes) (caller : Address)
    (command : Dispute.Command) :
    (before.actDispute now caller command).2 = (before'.actDispute now' caller command).2 ∧
      (before.actDispute now caller command).1.lane .disputes =
        (before'.actDispute now' caller command).1.lane .disputes := by
  obtain ⟨hpart, hevents, hshown⟩ := Lane.mk.inj h
  obtain ⟨hdisputes, hledger, hregistry, hpool⟩ := Part.disputes.inj hpart
  have henv : disputeEnvironment before.collaborators =
      disputeEnvironment before'.collaborators := by
    funext r
    rw [disputeEnvironment, disputeEnvironment, hregistry, hpool]
  rw [actDispute, actDispute, ← hdisputes, ← henv, ← hledger]
  cases before.disputes with
  | none => exact ⟨rfl, h⟩
  | some r =>
      refine ⟨rfl, lane_note_congr now now' ?_ _ _⟩
      simp only [lane, part, hregistry, hpool, hevents, hshown]

theorem settleBook_congr (h : before.lane .audit = before'.lane .audit)
    (outcome : Except CollaboratorError ReputationBook) :
    (before.settleBook outcome).2 = (before'.settleBook outcome).2 ∧
      (before.settleBook outcome).1.lane .audit = (before'.settleBook outcome).1.lane .audit := by
  obtain ⟨haudit, -, hchain, hseeds⟩ := Part.audit.inj (Lane.mk.inj h).1
  cases outcome with
  | error cause => exact ⟨rfl, h⟩
  | ok book =>
      refine ⟨rfl, lane_withCollaborators_congr h ?_⟩
      simp only [withCollaborators, part, haudit, hchain, hseeds]

theorem settleLedger_congr (h : before.lane .disputes = before'.lane .disputes)
    (outcome : Except CollaboratorError Ledger) :
    (before.settleLedger outcome).2 = (before'.settleLedger outcome).2 ∧
      (before.settleLedger outcome).1.lane .disputes =
        (before'.settleLedger outcome).1.lane .disputes := by
  obtain ⟨hdisputes, -, hregistry, hpool⟩ := Part.disputes.inj (Lane.mk.inj h).1
  cases outcome with
  | error cause => exact ⟨rfl, h⟩
  | ok ledger =>
      refine ⟨rfl, lane_withCollaborators_congr h ?_⟩
      simp only [withCollaborators, part, hdisputes, hregistry, hpool]

/-- An action sees nothing of the engine but its own lane, and nothing of the clock. -/
theorem act_congr {action : Action} (h : before.lane action.lane = before'.lane action.lane) :
    (before.act now action).2 = (before'.act now' action).2 ∧
      (before.act now action).1.lane action.lane =
        (before'.act now' action).1.lane action.lane := by
  cases action with
  | temperature caller command => exact actTemperature_congr now now' h caller command
  | audit caller command => exact actAudit_congr now now' h caller command
  | dispute caller command => exact actDispute_congr now now' h caller command
  | emit event times => exact ⟨rfl, lane_note_congr now now' h _ _⟩
  | setScore | subtract | setOffline =>
      obtain ⟨-, hbook, -, -⟩ := Part.audit.inj (Lane.mk.inj h).1
      rw [act, act, hbook]
      exact settleBook_congr h _
  | moveChain block =>
      obtain ⟨haudit, hbook, -, hseeds⟩ := Part.audit.inj (Lane.mk.inj h).1
      refine ⟨rfl, lane_withCollaborators_congr h ?_⟩
      simp only [Action.lane, withCollaborators, part, haudit, hbook, hseeds]
  | credit | freeze | thaw | transfer =>
      obtain ⟨-, hledger, -, -⟩ := Part.disputes.inj (Lane.mk.inj h).1
      rw [act, act, hledger]
      exact settleLedger_congr h _
  | register | addValidator =>
      obtain ⟨hdisputes, hledger, hregistry, hpool⟩ := Part.disputes.inj (Lane.mk.inj h).1
      refine ⟨rfl, lane_withCollaborators_congr h ?_⟩
      simp only [Action.lane, withCollaborators, part, hdisputes, hledger, hregistry, hpool]

end Own

/-! ## An action and the other lanes -/

section Other

variable (engine : Engine) (now : Timestamp) {subsystem : Subsystem}

theorem lane_note_other {events : List Event} {readings : List Reading}
    (hevents : ∀ event ∈ events, event.subsystem ≠ subsystem)
    (hreadings : ∀ reading ∈ readings, reading.subsystem ≠ subsystem) :
    (engine.note now events readings).lane subsystem = engine.lane subsystem := by
  simp only [lane, Lane.mk.injEq]
  refine ⟨?_, EventLog.eventsOf_append_other _ now hevents, ?_⟩
  · cases subsystem <;> rfl
  · simp only [note, observe, Option.map_map]
    exact Option.map_congr fun m _ => m.shown_readAll_other hreadings

theorem lane_settleBook_other (outcome : Except CollaboratorError ReputationBook)
    (h : Subsystem.audit ≠ subsystem) :
    (engine.settleBook outcome).1.lane subsystem = engine.lane subsystem := by
  cases outcome <;> cases subsystem <;> first | rfl | exact absurd rfl h

theorem lane_settleLedger_other (outcome : Except CollaboratorError Ledger)
    (h : Subsystem.disputes ≠ subsystem) :
    (engine.settleLedger outcome).1.lane subsystem = engine.lane subsystem := by
  cases outcome <;> cases subsystem <;> first | rfl | exact absurd rfl h

theorem lane_actTemperature_other (caller : Address) (command : Temperature.Command)
    (h : Subsystem.temperature ≠ subsystem) :
    (engine.actTemperature now caller command).1.lane subsystem = engine.lane subsystem := by
  cases hc : engine.temperature with
  | none => simp only [actTemperature, hc]
  | some c =>
      have hstep := Temperature.perform_step caller command (.start c ())
      simp only [actTemperature, hc]
      rw [lane_note_other _ now (Event.subsystem_ne hstep.subsystem_of_start h)
        (Reading.subsystem_ne hstep.reading_of_start h)]
      cases subsystem <;> first | rfl | exact absurd rfl h

theorem lane_actAudit_other (caller : Address) (command : Audit.Command)
    (h : Subsystem.audit ≠ subsystem) :
    (engine.actAudit now caller command).1.lane subsystem = engine.lane subsystem := by
  cases hs : engine.audit with
  | none => simp only [actAudit, hs]
  | some s =>
      have hstep := Audit.perform_step (auditEnvironment engine.collaborators) caller command
        (.start s engine.collaborators.book)
      simp only [actAudit, hs]
      rw [lane_note_other _ now (Event.subsystem_ne hstep.subsystem_of_start h)
        (Reading.subsystem_ne hstep.reading_of_start h)]
      cases subsystem <;> first | rfl | exact absurd rfl h

theorem lane_actDispute_other (caller : Address) (command : Dispute.Command)
    (h : Subsystem.disputes ≠ subsystem) :
    (engine.actDispute now caller command).1.lane subsystem = engine.lane subsystem := by
  cases hr : engine.disputes with
  | none => simp only [actDispute, hr]
  | some r =>
      have hstep := Dispute.perform_step (disputeEnvironment engine.collaborators r) caller command
        (.start r engine.collaborators.ledger)
      simp only [actDispute, hr]
      rw [lane_note_other _ now (Event.subsystem_ne hstep.subsystem_of_start h)
        (Reading.subsystem_ne hstep.reading_of_start h)]
      cases subsystem <;> first | rfl | exact absurd rfl h

/-- An action leaves all lanes but its own as they are. -/
theorem lane_act_other {action : Action} (h : action.lane ≠ subsystem) :
    (engine.act now action).1.lane subsystem = engine.lane subsystem := by
  cases action with
  | temperature caller command => exact lane_actTemperature_other engine now caller command h
  | audit caller command => exact lane_actAudit_other engine now caller command h
  | dispute caller command => exact lane_actDispute_other engine now caller command h
  | credit | freeze | thaw | transfer => exact lane_settleLedger_other engine _ h
  | setScore | subtract | setOffline => exact lane_settleBook_other engine _ h
  | register | addValidator | moveChain =>
      -- These put one collaborator in the place of another, which only its own lane has in it.
      cases subsystem <;> first | rfl | exact absurd rfl h
  | emit event times =>
      exact lane_note_other engine now (Event.subsystem_ne Event.subsystem_of_mem_replicate h)
        (List.forall_mem_nil _)

/-- An action tells the log of its own subsystem only. -/
theorem act_log (action : Action) :
    ∃ events, (engine.act now action).1.log = engine.log.append now events ∧
      ∀ event ∈ events, event.subsystem = action.lane := by
  have hnothing : engine.log = engine.log.append now [] := by
    rw [EventLog.append, EventLog.recordsFrom, List.append_nil]
  have hstep := act_step engine now action
  generalize engine.act now action = outcome at hstep
  obtain ⟨after, result⟩ := outcome
  cases hstep with
  | absent | declined | arranged => exact ⟨[], hnothing, List.forall_mem_nil _⟩
  | temperature hc hrun => exact ⟨_, rfl, (Temperature.step_of_run hrun).subsystem_of_start⟩
  | audit hs hrun => exact ⟨_, rfl, (Audit.step_of_run hrun).subsystem_of_start⟩
  | dispute hr hrun => exact ⟨_, rfl, (Dispute.step_of_run hrun).subsystem_of_start⟩
  | told event times => exact ⟨_, rfl, Event.subsystem_of_mem_replicate⟩

end Other

end Engine

end Integrity
