import Integrity.Proofs.Audit.Counts
import Integrity.Proofs.Dispute.LifeCycle
import Integrity.Proofs.Engine.Build
import Integrity.Proofs.Engine.Step
import Integrity.Proofs.Engine.TemperatureLog
import Integrity.Proofs.Temperature.Control
import Integrity.Proofs.Temperature.Safety

/-! # The instruments show where the subsystems stand

The instruments only hear readings: some say where a number stands, others that something happened
once more. Whatever an operation does to what an instrument shows, it reads out; so the metrics of
an engine can be worked out from its subsystems and from what happened. -/

namespace Integrity

open Operation
open Temperature (Controller)
open Audit (Scheduler)
open Dispute (Resolver)

/-- Whether an event tells of a control step. -/
def Event.isTick : Event → Bool
  | .temperatureTicked _ _ _ _ _ => true
  | _ => false

theorem Event.not_isTick {event : Event} (h : event.subsystem ≠ .temperature) :
    event.isTick = false := by
  cases event with
  | temperatureTicked => exact absurd rfl h
  | _ => rfl

/-- What the instruments are to show: where the subsystems stand, and how many control steps were
applied and refused. -/
def Metrics.mirror (c : Controller) (s : Scheduler) (r : Resolver) (ticks rejected : Nat) :
    Metrics where
  temperature := gauge c.temperature
  ticks := ticks
  rejectedTicks := rejected
  auditsScheduled := s.stats.scheduled
  auditsRecorded := s.stats.completed
  penalties := s.stats.penaltiesApplied
  disputesRaised := r.raised
  disputesResolved := r.wonByEmployer + r.wonByAppellant
  escrowedBonds := gauge r.escrowed.units

/-! ## The temperature controller -/

namespace Temperature

/-- Whether an operation of a caller failed as a tick of the authority does when some quantity does
not fit. -/
def Controller.overflows (c : Controller) (caller : Address) :
    Command → Except Error Answer → Bool
  | .tick _, .error (.control (.overflow _)) => c.authority.isHeldBy caller
  | _, _ => false

theorem Controller.overflows_of_ne_tick {command : Command}
    (h : ∀ signals, command ≠ .tick signals) (c : Controller) (caller : Address)
    (answer : Except Error Answer) : c.overflows caller command answer = false := by
  cases command with
  | tick signals => exact absurd rfl (h signals)
  | _ => rfl

theorem temperature_of_make {authority : Address} {settings : Settings} {c : Controller}
    (h : Controller.make authority settings = .ok c) : c.temperature = settings.initial := by
  simp only [Controller.make] at h
  split at h
  · cases h
  · split at h
    · cases h
    · cases h
      rfl

theorem mirror_of_amendment {command : Command} {change : Controller → Controller}
    {event : Controller → Event} (h : command.amendment = some (change, event)) (c : Controller) :
    (change c).temperature = c.temperature ∧ (event c).isTick = false := by
  cases command <;> cases h <;> exact ⟨rfl, rfl⟩

variable (s : Scheduler) (r : Resolver) (ticks rejected : Nat)

theorem Step.mirror {caller : Address} {command : Command} {answer : Except Error Answer}
    {c : Controller} {site : Site Controller Unit}
    (h : Step caller (.start c ()) command answer site)
    (hcommand : ∀ signals, command ≠ .tick signals) :
    (Metrics.mirror c s r ticks rejected).readAll site.readings =
      Metrics.mirror site.state s r (ticks + site.events.countP Event.isTick) rejected := by
  cases h with
  | refused _ cause => rfl
  | amended hamendment _ =>
      obtain ⟨htemperature, hevent⟩ := mirror_of_amendment hamendment c
      simp [Site.start, Metrics.readAll, Metrics.mirror, htemperature, hevent]
  | bounded _ _ _ =>
      simp [Site.start, Controller.afterBounding, Controller.bounded, Metrics.readAll, Metrics.read,
        Metrics.mirror, Event.isTick, Function.comp_def]
  | set _ _ => rfl
  | overridden _ _ => rfl
  | ticked _ _ => exact absurd rfl (hcommand _)
  | rejected _ _ => exact absurd rfl (hcommand _)

/-- A tick is counted when it is applied and when the authority makes it in vain. -/
theorem mirror_tick {c : Controller} (hsafe : c.Safe) {caller : Address} {signals : Signals}
    {answer : Except Error Answer} {site : Site Controller Unit}
    (hrun : (Controller.perform caller (.tick signals)).run (.start c ()) = (answer, site)) :
    (Metrics.mirror c s r ticks rejected).readAll site.readings =
      Metrics.mirror site.state s r (ticks + site.events.countP Event.isTick)
        (rejected + (c.overflows caller (.tick signals) answer).toNat) := by
  cases hheld : c.authority.isHeldBy caller with
  | false =>
      rw [run_of_not_held _ hheld] at hrun
      obtain ⟨rfl, rfl⟩ := Prod.mk.inj hrun
      rfl
  | true =>
      have hpassed : (Site.start c ()).state.ensureAuthority caller = .ok () :=
        Controller.ensureAuthority_of_held hheld
      have hends := step_ends hsafe.bounds c.gains c.temperature c.integral c.lastError signals
      rw [Controller.perform, run_bind, Controller.run_tick, hpassed] at hrun
      cases hstep : (Site.start c ()).state.stepOn signals with
      | ok made =>
          rw [hstep] at hrun
          obtain ⟨rfl, rfl⟩ := Prod.mk.inj hrun
          rfl
      | error cause =>
          obtain ⟨stage, rfl⟩ : ControlFailure.IsOverflow cause := by
            change step c.gains c.bounds c.temperature c.integral c.lastError signals = _ at hstep
            rwa [hstep] at hends
          rw [hstep] at hrun
          obtain ⟨rfl, rfl⟩ := Prod.mk.inj hrun
          simp only [Controller.overflows, hheld]
          rfl

theorem mirror_perform {c : Controller} (hsafe : c.Safe) {caller : Address} {command : Command}
    {answer : Except Error Answer} {site : Site Controller Unit}
    (hrun : (Controller.perform caller command).run (.start c ()) = (answer, site)) :
    (Metrics.mirror c s r ticks rejected).readAll site.readings =
      Metrics.mirror site.state s r (ticks + site.events.countP Event.isTick)
        (rejected + (c.overflows caller command answer).toNat) := by
  by_cases hcommand : ∃ signals, command = .tick signals
  · obtain ⟨signals, rfl⟩ := hcommand
    exact mirror_tick s r ticks rejected hsafe hrun
  · rw [not_exists] at hcommand
    rw [Controller.overflows_of_ne_tick hcommand]
    exact (step_of_run hrun).mirror s r ticks rejected hcommand

end Temperature

/-! ## The audit scheduler -/

namespace Audit

variable (c : Controller) (r : Resolver) (ticks rejected : Nat)

theorem Step.mirror {env : Environment ReputationBook} {caller : Address} {command : Command}
    {answer : Except Error Answer} {s : Scheduler} {book : ReputationBook}
    {site : Site Scheduler ReputationBook}
    (h : Step env caller (.start s book) command answer site) :
    (Metrics.mirror c s r ticks rejected).readAll site.readings =
      Metrics.mirror c site.state r ticks rejected := by
  cases h with
  | refused _ cause => rfl
  | amended hcommand _ _ =>
      simp only [Site.start, Metrics.mirror, (keeps_of_amendment hcommand s).2]
      rfl
  | ignored _ _ _ => rfl
  | passed _ _ _ _ _ => rfl
  | scheduled _ _ _ _ _ _ =>
      simp only [Scheduler.afterScheduling, Metrics.mirror, Scheduler.stats_scheduled]
      rfl
  | @recorded job passed details found book hopen hcharge =>
      simp only [Scheduler.afterRecording, Metrics.mirror, Scheduler.stats_recorded, Site.start]
      cases s.penaltyFor found passed <;> rfl

end Audit

/-! ## The dispute resolver -/

namespace Dispute

variable (c : Controller) (s : Scheduler) (ticks rejected : Nat)

theorem Step.mirror {env : Environment Ledger} {caller : Address} {command : Command}
    {answer : Except Error Answer} {r : Resolver} {ledger : Ledger} {site : Site Resolver Ledger}
    (h : Step env caller (.start r ledger) command answer site) :
    (Metrics.mirror c s r ticks rejected).readAll site.readings =
      Metrics.mirror c s site.state ticks rejected := by
  cases h with
  | refused _ cause => rfl
  | abandonedRaise job bond => rfl
  | abandonedResolve job employerWins => rfl
  | amended hcommand _ =>
      obtain ⟨hdisputes, -, hraised, hemployer, happellant⟩ := keeps_of_amendment hcommand r
      simp only [Site.start, Metrics.mirror, Resolver.escrowed, hdisputes, hraised, hemployer,
        happellant]
      rfl
  | raised _ _ _ _ _ => rfl
  | @resolved job employerWins record recipient ledger hjudge hopen hrecipient hpay =>
      obtain ⟨hraised, hwon⟩ := Resolver.won_closed r job employerWins
      simp only [Resolver.afterClosing, Metrics.mirror, Site.start, hraised, hwon]
      rfl

end Dispute

/-! ## The engine -/

namespace Engine

/-- Whether the authority made a tick that failed because some quantity did not fit. -/
def Entry.overflows (entry : Entry) : Bool :=
  match entry.before.temperature, entry.action, entry.result with
  | some c, .temperature caller (.tick _), .error (.temperature (.control (.overflow _))) =>
    c.authority.isHeldBy caller
  | _, _, _ => false

/-- All subsystems are there, and the instruments show where they stand. -/
def Mirrored (engine : Engine) (rejected : Nat) : Prop :=
  ∃ c s r, engine.temperature = some c ∧ engine.audit = some s ∧ engine.disputes = some r ∧
    c.Safe ∧
    engine.metrics =
      some (Metrics.mirror c s r (engine.log.events.countP Event.isTick) rejected)

theorem mirrored_build {config : Config} {collaborators : Collaborators} {withSink : Bool}
    {engine : Engine} (h : build config collaborators withSink true = .ok engine) :
    engine.Mirrored 0 := by
  obtain ⟨-, c, s, hc, hs, rfl⟩ := build_eq_ok.mp h
  refine ⟨c, s, _, rfl, rfl, rfl, Controller.safe_make hc, ?_⟩
  simp only [Metrics.mirror, (Scheduler.blank_of_make hs).2, Temperature.temperature_of_make hc]
  rfl

theorem overflows_temperature {before : Engine} {c : Controller} (hc : before.temperature = some c)
    (caller : Address) (command : Temperature.Command)
    (answer : Except Temperature.Error Temperature.Answer) :
    (Entry.mk before (.temperature caller command)
      ((answer.map .temperature).mapError .temperature)).overflows =
        c.overflows caller command answer := by
  simp only [Entry.overflows, hc]
  cases answer with
  | ok a => cases command <;> rfl
  | error cause =>
      cases command with
      | tick signals =>
          cases cause with
          | control failure => cases failure <;> rfl
          | _ => rfl
      | _ => rfl

theorem not_overflows {result : Except Failure Answer}
    (h : ∀ cause, result ≠ .error (.temperature cause)) (before : Engine) (action : Action) :
    (Entry.mk before action result).overflows = false := by
  simp only [Entry.overflows]
  split
  · exact absurd rfl (h _)
  · rfl

/-- What is noted of other subsystems is no control step. -/
theorem countP_isTick_append (log : EventLog) (now : Timestamp) {events : List Event}
    (hevents : ∀ event ∈ events, event.subsystem ≠ .temperature) :
    (log.append now events).events.countP Event.isTick = log.events.countP Event.isTick := by
  have hnone : events.countP Event.isTick = 0 := by
    rw [List.countP_eq_zero]
    intro event hevent
    simp [Event.not_isTick (hevents event hevent)]
  rw [EventLog.events_append, List.countP_append, hnone, Nat.add_zero]

/-- An action moves the instruments along with the subsystems, unless it forges a control step. -/
theorem Mirrored.step {before after : Engine} {now : Timestamp} {action : Action}
    {result : Except Failure Answer} {rejected : Nat} (h : before.Mirrored rejected)
    (hstep : Step before now action result after) (hforges : ¬action.Forges .temperature) :
    after.Mirrored (rejected + (Entry.mk before action result).overflows.toNat) := by
  obtain ⟨c, s, r, hc, hs, hr, hsafe, hmetrics⟩ := h
  cases hstep with
  | @temperature caller command c' answer site hc' hrun =>
      obtain rfl : c = c' := Option.some.inj (hc.symm.trans hc')
      refine ⟨site.state, s, r, rfl, hs, hr, hsafe.step (Temperature.step_of_run hrun), ?_⟩
      simp only [Engine.note, observe, hmetrics, Option.map_some, EventLog.events_append,
        List.countP_append, overflows_temperature hc]
      rw [Temperature.mirror_perform s r _ _ hsafe hrun]
  | @audit caller command s' answer site hs' hrun =>
      obtain rfl : s = s' := Option.some.inj (hs.symm.trans hs')
      have hmodule := Audit.step_of_run hrun
      have hothers : ∀ event ∈ site.events, event.subsystem ≠ .temperature :=
        Event.subsystem_ne hmodule.subsystem_of_start (by decide)
      rw [not_overflows (by cases answer <;> simp)]
      refine ⟨c, site.state, r, hc, rfl, hr, hsafe, ?_⟩
      simp only [Engine.note, observe, hmetrics, Option.map_some,
        countP_isTick_append _ now hothers]
      rw [hmodule.mirror]
      rfl
  | @dispute caller command r' answer site hr' hrun =>
      obtain rfl : r = r' := Option.some.inj (hr.symm.trans hr')
      have hmodule := Dispute.step_of_run hrun
      have hothers : ∀ event ∈ site.events, event.subsystem ≠ .temperature :=
        Event.subsystem_ne hmodule.subsystem_of_start (by decide)
      rw [not_overflows (by cases answer <;> simp)]
      refine ⟨c, s, site.state, hc, hs, rfl, hsafe, ?_⟩
      simp only [Engine.note, observe, hmetrics, Option.map_some,
        countP_isTick_append _ now hothers]
      rw [hmodule.mirror]
      rfl
  | absent subsystem =>
      rw [not_overflows (by simp)]
      exact ⟨c, s, r, hc, hs, hr, hsafe, hmetrics⟩
  | declined cause =>
      rw [not_overflows (by simp)]
      exact ⟨c, s, r, hc, hs, hr, hsafe, hmetrics⟩
  | arranged haction collaborators =>
      rw [not_overflows (by simp)]
      exact ⟨c, s, r, hc, hs, hr, hsafe, hmetrics⟩
  | told event times =>
      have hothers : ∀ other ∈ List.replicate times event, other.subsystem ≠ .temperature :=
        Event.subsystem_ne Event.subsystem_of_mem_replicate hforges
      rw [not_overflows (by simp)]
      refine ⟨c, s, r, hc, hs, hr, hsafe, ?_⟩
      simp only [Engine.note, observe, hmetrics, Option.map_some,
        countP_isTick_append _ now hothers]
      rfl

theorem Mirrored.after {engine : Engine} {rejected : Nat} (h : engine.Mirrored rejected)
    (clock : Nat → Timestamp) {actions : List Action}
    (hactions : ∀ action ∈ actions, ¬action.Forges .temperature) :
    (engine.after clock actions).Mirrored
      (rejected + (engine.history clock actions).countP Entry.overflows) := by
  induction actions generalizing engine rejected clock with
  | nil => exact h
  | cons action rest ih =>
      obtain ⟨hfirst, hrest⟩ := List.forall_mem_cons.mp hactions
      have hnext := h.step (act_step engine (clock 0) action) hfirst
      have hlater := ih hnext (fun n => clock (n + 1)) hrest
      rwa [history, countP_cons_eq, ← Nat.add_assoc]

/-- Take any engine that was built with metrics, and any history in which nobody writes events about
the temperature past the controller. The gauges show where the temperature and the escrow stand, up
to the largest number that they can show; the counters are what the subsystems have counted, the
control steps that the log tells of, and the ticks of the authority that failed because some
quantity did not fit. -/
theorem metrics_after {config : Config} {collaborators : Collaborators} {withSink : Bool}
    {engine : Engine} (h : build config collaborators withSink true = .ok engine)
    (clock : Nat → Timestamp) {actions : List Action}
    (hactions : ∀ action ∈ actions, ¬action.Forges .temperature) :
    let later := engine.after clock actions
    ∃ m c s r, later.metrics = some m ∧ later.temperature = some c ∧ later.audit = some s ∧
      later.disputes = some r ∧
      m.temperature = min c.temperature maxInt64 ∧
      m.ticks = later.log.events.countP Event.isTick ∧
      m.rejectedTicks = (engine.history clock actions).countP Entry.overflows ∧
      m.auditsScheduled = s.stats.scheduled ∧ m.auditsRecorded = s.stats.completed ∧
      m.penalties = s.stats.penaltiesApplied ∧
      m.disputesRaised = r.stats.raised ∧
      m.disputesResolved = r.stats.wonByEmployer + r.stats.wonByAppellant ∧
      m.escrowedBonds = min (r.stats.escrowed.units : Int) maxInt64 := by
  intro later
  obtain ⟨c, s, r, hc, hs, hr, hsafe, hmetrics⟩ := (mirrored_build h).after clock hactions
  rw [Nat.zero_add] at hmetrics
  have htemperature : 0 ≤ c.temperature :=
    Int.le_trans (Int.le_of_lt hsafe.bounds.1) hsafe.temperature.1
  have hescrow : (0 : Int) ≤ r.stats.escrowed.units := Int.natCast_nonneg _
  exact ⟨_, c, s, r, hmetrics, hc, hs, hr, Metrics.gauge_of_nonneg htemperature, rfl, rfl, rfl, rfl,
    rfl, rfl, rfl, Metrics.gauge_of_nonneg hescrow⟩

/-- Of the authority's two ticks one does not fit. New bounds move the temperature beyond what its
gauge can show, and the bond in escrow is beyond that too; a bad outcome costs a penalty. -/
theorem metrics_after_saturated :
    let holder := Address.filled 0xA1
    let agent := Address.filled 0xAB
    let job := JobId.ofNat 7
    let config := Config.entrusted holder [holder] (Amount.ofNat 5) Amount.max
    let engine := entrusted holder [holder] (Amount.ofNat 5) Amount.max true true
    let actions : List Action := [
      .temperature holder (.tick ⟨-90, 0, 0⟩),
      .temperature holder (.tick ⟨Temperature.maxWord128, 1, 0⟩),
      .temperature agent (.tick ⟨Temperature.maxWord128, 1, 0⟩),
      .temperature holder (.setBounds (maxInt64 + 1) (maxInt64 + 5)),
      .audit holder (.finalize job agent true Word.zero),
      .audit holder (.record job false ""),
      .credit agent Amount.max,
      .dispute agent (.raise job Amount.max)]
    let later := engine.after (fun _ => default) actions
    build config .fresh true true = .ok engine ∧
      (∀ action ∈ actions, ¬action.Forges .temperature) ∧
      later.metrics = some ⟨maxInt64, 1, 1, 1, 1, 1, 1, 0, maxInt64⟩ ∧
      later.log.events.countP Event.isTick = 1 ∧
      (engine.history (fun _ => default) actions).countP Entry.overflows = 1 := by
  intro holder agent job config engine actions later
  have hbuild : build config .fresh true true = .ok engine := build_entrusted rfl _ _ _ _ _
  have hactions : ∀ action ∈ actions, ¬action.Forges .temperature := by
    simp [actions, Action.Forges]
  have hshown : later.metrics = some ⟨maxInt64, 1, 1, 1, 1, 1, 1, 0, maxInt64⟩ := by
    decide +kernel
  have hafter := metrics_after hbuild (fun _ => default) hactions
  obtain ⟨m, c, s, r, hm, -, -, -, -, hticks, hrejected, -⟩ := hafter
  obtain rfl := Option.some.inj (hm.symm.trans hshown)
  exact ⟨hbuild, hactions, hshown, hticks.symm, hrejected.symm⟩

end Engine

end Integrity
