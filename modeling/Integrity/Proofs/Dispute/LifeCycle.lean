import Integrity.Proofs.Dispute.Step
import Integrity.Proofs.Operation.Run
import Mathlib.Data.List.Induction

/-! # The life cycle of disputes

The disputes of a job come one after the other: each is raised, stays open, and is settled before
the next is raised. The events of the job spell out this cycle, and the resolver has a dispute of
the job while the last of them tells that one was raised. Prices, juries and judges may change in
between; what was collected is paid all the same. -/

namespace Integrity

/-- Whether an event tells that a dispute of a job was raised or settled. -/
def Event.disputes (job : JobId) : Event → Bool
  | .disputeRaised raised _ _ _ => raised = job
  | .disputeResolved resolved _ _ _ => resolved = job
  | _ => false

namespace Dispute

open Operation

variable {γ : Type}

/-! ## The events of one job -/

/-- What is told of a dispute when it is raised. -/
structure Terms where
  appellant : Address
  bond : Amount
  jurySize : Nat
deriving DecidableEq

/-- The terms of an open dispute. -/
def Record.terms (record : Record) : Terms :=
  ⟨record.appellant, record.bond, record.jury.length⟩

/-- The events that may be told of the disputes of a job, and the terms of the dispute that is open
after them. -/
inductive LifeCycle (job : JobId) : List Event → Option Terms → Prop
  | new : LifeCycle job [] none
  | raised {events : List Event} (terms : Terms) (h : LifeCycle job events none) :
      LifeCycle job
        (events ++ [.disputeRaised job terms.appellant terms.bond terms.jurySize]) (some terms)
  | resolved {events : List Event} {terms : Terms} (employerWins : Bool) (recipient : Address)
      (h : LifeCycle job events (some terms))
      (hrecipient : employerWins = false → recipient = terms.appellant) :
      LifeCycle job
        (events ++ [.disputeResolved job employerWins recipient terms.bond]) none

/-- A dispute is open exactly when the last event tells that it was raised. -/
theorem LifeCycle.eq_some_iff {job : JobId} {events : List Event} {state : Option Terms}
    (h : LifeCycle job events state) (terms : Terms) :
    state = some terms ↔
      events.getLast? =
        some (.disputeRaised job terms.appellant terms.bond terms.jurySize) := by
  cases h with
  | new => simp
  | raised other _ =>
      obtain ⟨appellant, bond, jurySize⟩ := terms
      obtain ⟨appellant', bond', jurySize'⟩ := other
      simp
  | resolved employerWins recipient _ _ => simp

/-- The events about the disputes of a job. -/
def docket (job : JobId) (events : List Event) : List Event :=
  events.filter (Event.disputes job)

theorem docket_concat (job : JobId) (events : List Event) (event : Event) :
    docket job (events ++ [event]) =
      docket job events ++ if event.disputes job then [event] else [] := by
  rw [docket, List.filter_append, List.filter_cons, List.filter_nil, docket]

/-! ## The invariant -/

/-- Every job goes through its life cycle, and every dispute that was raised is settled or open. -/
structure Cyclic (site : Site Resolver γ) : Prop where
  cycles : ∀ job, LifeCycle job (docket job site.events)
    ((site.state.dispute job).map Record.terms)
  accounted : site.state.stats.raised =
    site.state.stats.wonByEmployer + site.state.stats.wonByAppellant +
      site.state.stats.outstanding

theorem cyclic_start (authority : Address) (settings : Settings) (juries : JurySource)
    (employers : EmployerSource) (ledger : γ) :
    Cyclic (Site.start (Resolver.make authority settings juries employers) ledger) :=
  ⟨fun _ => .new, rfl⟩

theorem not_disputes_of_amendment {command : Command} {change : Resolver → Resolver}
    {event : Resolver → Event} (h : command.amendment = some (change, event)) (r : Resolver)
    (job : JobId) : (event r).disputes job = false := by
  cases command <;> cases h <;> rfl

theorem Cyclic.amended {before : Site Resolver γ} (h : Cyclic before) {command : Command}
    {change : Resolver → Resolver} {event : Resolver → Event}
    (hcommand : command.amendment = some (change, event)) :
    Cyclic
      { before with
        state := change before.state, events := before.events ++ [event before.state] } := by
  obtain ⟨hdisputes, -, hraised, hemployer, happellant⟩ := keeps_of_amendment hcommand before.state
  constructor
  case cycles =>
    intro job
    have hsilent := not_disputes_of_amendment hcommand before.state job
    have hdispute : (change before.state).dispute job = before.state.dispute job :=
      congrArg (Table.get? · job) hdisputes
    simpa [docket_concat, hsilent, hdispute] using h.cycles job
  case accounted =>
    simp only [Resolver.stats, hdisputes, hraised, hemployer, happellant]
    exact h.accounted

theorem Cyclic.raised {before : Site Resolver γ} (h : Cyclic before) {job : JobId}
    (hfree : before.state.dispute job = none) (record : Record) (ledger : γ) :
    Cyclic (Resolver.afterOpening before ledger job record) := by
  constructor
  case cycles =>
    intro other
    have hother := h.cycles other
    simp only [Resolver.afterOpening, docket_concat, Event.disputes, Resolver.dispute_opened]
    by_cases hjob : job = other
    · subst hjob
      rw [hfree] at hother
      simpa [Record.terms] using hother.raised record.terms
    · simpa [hjob] using hother
  case accounted =>
    have haccounted := h.accounted
    have hsize := Table.size_insert before.state.disputes job record
    rw [Resolver.dispute] at hfree
    simp only [hfree, Option.isSome_none, Bool.toNat_false] at hsize
    simp only [Resolver.stats, Resolver.afterOpening, Resolver.opened] at haccounted ⊢
    omega

theorem Resolver.won_closed (r : Resolver) (job : JobId) (employerWins : Bool) :
    (r.closed job employerWins).raised = r.raised ∧
      (r.closed job employerWins).wonByEmployer + (r.closed job employerWins).wonByAppellant =
        r.wonByEmployer + r.wonByAppellant + 1 := by
  cases employerWins <;> simp only [closed, countVerdict] <;> simp <;> omega

theorem Cyclic.resolved {before : Site Resolver γ} (h : Cyclic before) {job : JobId}
    {record : Record} (hopen : before.state.dispute job = some record) {employerWins : Bool}
    {recipient : Address} (hrecipient : employerWins = false → recipient = record.appellant)
    (ledger : γ) :
    Cyclic
      (Resolver.afterClosing before ledger job employerWins recipient record.bond) := by
  constructor
  case cycles =>
    intro other
    have hother := h.cycles other
    simp only [Resolver.afterClosing, docket_concat, Event.disputes, Resolver.dispute_closed]
    by_cases hjob : job = other
    · subst hjob
      rw [hopen] at hother
      simpa [Record.terms] using hother.resolved employerWins recipient hrecipient
    · simpa [hjob] using hother
  case accounted =>
    have haccounted := h.accounted
    have hsize := Table.size_erase before.state.disputes job
    obtain ⟨hraised, hwon⟩ := Resolver.won_closed before.state job employerWins
    rw [Resolver.dispute] at hopen
    simp only [hopen, Option.isSome_some, Bool.toNat_true] at hsize
    simp only [Resolver.stats, Resolver.afterClosing, Resolver.disputes_closed] at haccounted ⊢
    omega

theorem Cyclic.step {env : Environment γ} {caller : Address} {command : Command}
    {answer : Except Error Answer} {before after : Site Resolver γ} (h : Cyclic before)
    (hstep : Step env caller before command answer after) : Cyclic after := by
  cases hstep with
  | refused _ cause => exact h
  | abandonedRaise job bond => exact h
  | abandonedResolve job employerWins => exact h
  | amended hcommand _ => exact h.amended hcommand
  | raised _ hfree _ _ _ => exact h.raised hfree _ _
  | resolved _ hopen hrecipient _ =>
      refine h.resolved hopen ?_ _
      rintro rfl
      simpa using hrecipient

/-! ## Where the events come from -/

/-- What is behind an event about a dispute, when a call at a site tells it. -/
def Call.Backs (call : Call γ) (before : Site Resolver γ) : Event → Prop
  | .disputeRaised job appellant bond jurySize =>
    appellant = call.caller ∧ bond = before.state.appealBond ∧
      before.state.minJurySize ≤ jurySize ∧
      ∃ jury, call.environment.jury job = .ok jury ∧ jury.length = jurySize
  | .disputeResolved job employerWins recipient bond =>
    call.caller = before.state.judge ∧
      ∃ record, before.state.dispute job = some record ∧ bond = record.bond ∧
        if employerWins then call.environment.employer job = .ok recipient
        else recipient = record.appellant
  | _ => True

theorem Call.backs_of_amendment {command : Command} {change : Resolver → Resolver}
    {event : Resolver → Event} (h : command.amendment = some (change, event)) (r : Resolver)
    (call : Call γ) (before : Site Resolver γ) : call.Backs before (event r) := by
  cases command <;> cases h <;> exact trivial

theorem judge_of_ensureJudge {r : Resolver} {caller : Address}
    (h : r.ensureJudge caller = .ok ()) : caller = r.judge := by
  simp only [Resolver.ensureJudge] at h
  split at h
  · cases h
  · next hjudge => simp_all

/-- A call tells nothing, or one event that it backs. -/
theorem Call.backs_of_perform (call : Call γ) (before : Site Resolver γ) :
    (call.perform.run before).2.events = before.events ∨
      ∃ event, (call.perform.run before).2.events = before.events ++ [event] ∧
        call.Backs before event := by
  obtain ⟨env, caller, command⟩ := call
  have hstep := perform_step env caller command before
  rw [perform]
  generalize (Resolver.perform env caller command).run before = outcome at hstep
  obtain ⟨answer, after⟩ := outcome
  cases hstep with
  | refused _ cause => exact .inl rfl
  | abandonedRaise job bond => exact .inl rfl
  | abandonedResolve job employerWins => exact .inl rfl
  | amended hcommand _ => exact .inr ⟨_, rfl, backs_of_amendment hcommand before.state _ before⟩
  | raised hbond _ hjury hsize _ => exact .inr ⟨_, rfl, rfl, hbond, hsize, _, hjury, rfl⟩
  | resolved hjudge hopen hrecipient _ =>
      exact .inr ⟨_, rfl, judge_of_ensureJudge hjudge, _, hopen, rfl, hrecipient⟩

/-- Every event of a run is told and backed by one of its calls. -/
theorem backed_play (start : Site Resolver γ) (hstart : start.events = []) (calls : List (Call γ))
    {earlier later : List Event} {event : Event}
    (hsplit : (start.play Call.perform calls).events = earlier ++ event :: later) :
    ∃ entry ∈ start.history Call.perform calls,
      entry.1.events = earlier ∧ (entry.2.perform.run entry.1).2.events = earlier ++ [event] ∧
        entry.2.Backs entry.1 event := by
  induction calls using List.reverseRecOn generalizing later with
  | nil => simp [hstart] at hsplit
  | append_singleton calls call ih =>
      rw [Site.play_concat] at hsplit
      rw [Site.history_concat]
      have hearlier (others : List Event)
          (h : (start.play Call.perform calls).events = earlier ++ event :: others) :
          ∃ entry ∈ start.history Call.perform calls ++ [(start.play Call.perform calls, call)],
            entry.1.events = earlier ∧
              (entry.2.perform.run entry.1).2.events = earlier ++ [event] ∧
              entry.2.Backs entry.1 event := by
        obtain ⟨entry, hentry, hbacked⟩ := ih h
        exact ⟨entry, List.mem_append_left _ hentry, hbacked⟩
      rcases call.backs_of_perform (start.play Call.perform calls) with hnothing | hevent
      · exact hearlier later (hnothing.symm.trans hsplit)
      · obtain ⟨told, htold, hbacks⟩ := hevent
        rw [htold] at hsplit
        -- The event is the last one or came before it.
        rcases List.eq_nil_or_concat later with rfl | ⟨others, last, rfl⟩
        · obtain ⟨hevents, hlast⟩ := List.append_inj' hsplit rfl
          obtain rfl := List.singleton_inj.mp hlast
          refine ⟨_, List.mem_append_right _ List.mem_cons_self, hevents, ?_, hbacks⟩
          rw [htold, hevents]
        · apply hearlier others
          have hinner : (start.play Call.perform calls).events ++ [told] =
              (earlier ++ event :: others) ++ [last] := by simpa using hsplit
          exact (List.append_inj' hinner rfl).1

/-- Whatever anybody does with a new resolver, and whatever it works with at each time: the events
of every job spell out its life cycle, and a dispute of the job is open, on the terms that were
told, exactly while the last of them tells that it was raised. Every event was told by a call that
backs it: a jury was selected that was large enough then, and the employer who is paid is the one
that was looked up. Every dispute that was raised was won by one side or is open. -/
theorem lifeCycle_play (authority : Address) (settings : Settings) (juries : JurySource)
    (employers : EmployerSource) (ledger : γ) (calls : List (Call γ)) :
    let start := Site.start (Resolver.make authority settings juries employers) ledger
    let site := start.play Call.perform calls
    (∀ job, LifeCycle job (docket job site.events)
        ((site.state.dispute job).map Record.terms)) ∧
      (∀ job terms, (site.state.dispute job).map Record.terms = some terms ↔
        (docket job site.events).getLast? =
          some (.disputeRaised job terms.appellant terms.bond terms.jurySize)) ∧
      (∀ earlier event later, site.events = earlier ++ event :: later →
        ∃ entry ∈ start.history Call.perform calls,
          entry.1.events = earlier ∧
            (entry.2.perform.run entry.1).2.events = earlier ++ [event] ∧
            entry.2.Backs entry.1 event) ∧
      site.state.stats.raised =
        site.state.stats.wonByEmployer + site.state.stats.wonByAppellant +
          site.state.stats.outstanding := by
  intro start site
  have hcyclic : Cyclic site :=
    Site.play_induction (cyclic_start authority settings juries employers ledger)
      fun call _ before hbefore =>
        hbefore.step (perform_step call.environment call.caller call.command before)
  refine ⟨hcyclic.cycles, ?_, ?_, hcyclic.accounted⟩
  · intro job terms
    exact (hcyclic.cycles job).eq_some_iff terms
  · intro earlier event later hsplit
    exact backed_play start rfl calls hsplit

/-- A job is disputed again after its first dispute was settled, at the bond of the time: the first
bond was raised before the settlement, and a look-up and a payment failed before it. -/
theorem lifeCycle_play_again :
    let holder := Address.filled 0xA1
    let appellant := Address.filled 0xAB
    let employer := Address.filled 0xEE
    let job := JobId.ofNat 7
    let settings : Settings := ⟨Amount.ofNat 10, 1, holder, Address.filled 0xE5⟩
    let working : Environment Unit :=
      ⟨fun _ => .ok [holder], fun _ => .ok employer, fun _ _ _ _ => .ok ()⟩
    let lost : Environment Unit := { working with employer := fun job => .error (.unknownJob job) }
    let broken : Environment Unit :=
      { working with pay := fun _ _ _ _ => .error (.unavailable "offline") }
    let calls : List (Call Unit) := [
      ⟨working, appellant, .raise job (Amount.ofNat 10)⟩,
      ⟨working, holder, .setAppealBond (Amount.ofNat 15)⟩,
      ⟨working, appellant, .raise job (Amount.ofNat 15)⟩,
      ⟨lost, holder, .resolve job true⟩,
      ⟨broken, holder, .resolve job true⟩,
      ⟨working, holder, .resolve job true⟩,
      ⟨working, appellant, .raise job (Amount.ofNat 15)⟩]
    let site := (Site.start (Resolver.make holder settings .pool .registry) ()).play
      Call.perform calls
    docket job site.events = [
        .disputeRaised job appellant (Amount.ofNat 10) 1,
        .disputeResolved job true employer (Amount.ofNat 10),
        .disputeRaised job appellant (Amount.ofNat 15) 1] ∧
      site.state.stats = ⟨2, 1, 0, 1, Amount.ofNat 15⟩ ∧
      LifeCycle job (docket job site.events) ((site.state.dispute job).map Record.terms) := by
  intro holder appellant employer job settings working lost broken calls site
  have hcycle : LifeCycle job (docket job site.events)
      ((site.state.dispute job).map Record.terms) := by
    with_reducible exact (lifeCycle_play holder settings .pool .registry () calls).1 job
  exact ⟨by decide +kernel, by decide +kernel, hcycle⟩

end Dispute

end Integrity
