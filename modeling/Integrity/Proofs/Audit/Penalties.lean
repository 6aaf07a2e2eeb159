import Integrity.Proofs.Audit.Counts
import Integrity.Proofs.Event.Order
import Integrity.Proofs.Operation.Run
import Integrity.Proofs.Reputation.Book
import Mathlib.Data.List.Induction

/-! # Penalties

A penalty is taken from the reputation book before the outcome is recorded, and the event that tells
of it comes last. The book, the counts and the events agree after every operation all the same,
since a refusal of the book stops the operation before anything is written. -/

namespace Integrity

/-! ## Events about penalties -/

/-- Whether an event tells that a job is to be audited. -/
def Event.schedules (job : JobId) : Event → Bool
  | .auditScheduled scheduled _ _ _ => scheduled = job
  | _ => false

/-- Whether an event tells of a penalty for a job. -/
def Event.penalizes (job : JobId) : Event → Bool
  | .agentPenalized penalized _ _ => penalized = job
  | _ => false

/-- The penalty that an event tells of. -/
def Event.penalty? : Event → Option (Address × Amount)
  | .agentPenalized _ agent amount => some (agent, amount)
  | _ => none

/-- An event that tells neither of an audit that is scheduled nor of a penalty. -/
structure Event.IsSilent (event : Event) : Prop where
  penalty? : event.penalty? = none
  schedules : ∀ job, event.schedules job = false
  penalizes : ∀ job, event.penalizes job = false

namespace Audit

/-- The job was scheduled with this agent, and has been neither scheduled nor penalized since. -/
def Due (job : JobId) (agent : Address) (events : List Event) : Prop :=
  ∃ earlier seed replaced later,
    events = earlier ++ .auditScheduled job agent seed replaced :: later ∧
      ∀ event ∈ later, event.schedules job = false ∧ event.penalizes job = false

/-- A penalty is for an audit of its agent that has not been penalized. -/
def Rightful (before : List Event) : Event → Prop
  | .agentPenalized job agent _ => Due job agent before
  | _ => True

theorem due_scheduled (job : JobId) (agent : Address) (seed : String) (replaced : Bool)
    (events : List Event) :
    Due job agent (events ++ [.auditScheduled job agent seed replaced]) :=
  ⟨events, seed, replaced, [], rfl, by simp⟩

theorem Due.concat {job : JobId} {agent : Address} {events : List Event}
    (h : Due job agent events) {event : Event} (hschedules : event.schedules job = false)
    (hpenalizes : event.penalizes job = false) : Due job agent (events ++ [event]) := by
  obtain ⟨earlier, seed, replaced, later, rfl, hlater⟩ := h
  refine ⟨earlier, seed, replaced, later ++ [event], by simp, ?_⟩
  intro other hother
  rcases List.mem_append.mp hother with hother | hother
  · exact hlater other hother
  · obtain rfl := List.mem_singleton.mp hother
    exact ⟨hschedules, hpenalizes⟩

theorem rightful_of_isSilent {event : Event} (h : event.IsSilent) (before : List Event) :
    Rightful before event := by
  cases event with
  | agentPenalized job agent amount => cases h.penalty?
  | _ => exact trivial

theorem Due.clearSince {job : JobId} {agent : Address} {events : List Event}
    (h : Due job agent events) :
    ClearSince (Event.schedules job) (Event.penalizes job) events := by
  obtain ⟨earlier, seed, replaced, later, rfl, hlater⟩ := h
  exact ⟨earlier, _, later, rfl, by simp [Event.schedules], hlater⟩

/-- Rightful penalties come at most once for each time that their job was scheduled. -/
theorem countP_penalizes_le_one {events : List Event} (h : Orderly Rightful events) {job : JobId}
    {before between after : List Event} (hsplit : events = before ++ between ++ after)
    (hbetween : ∀ event ∈ between, event.schedules job = false) :
    between.countP (Event.penalizes job) ≤ 1 := by
  refine countP_le_one_of_orderly (h.mono ?_) hsplit hbetween
  intro earlier event hrightful hpenalizes
  cases event with
  | agentPenalized penalized agent amount =>
      simp only [Event.penalizes, decide_eq_true_eq] at hpenalizes
      subst hpenalizes
      exact Due.clearSince hrightful
  | _ => cases hpenalizes

/-! ## A scheduler with a reputation book -/

/-- What may happen to a scheduler whose penalty sink is a reputation book: an operation, with what
the scheduler works with at that time, or a change of the book beside it. -/
inductive Move where
  | operate (seeds : SeedSource) (chain : ChainSnapshot) (caller : Address) (command : Command)
  | setScore (agent : Address) (score : Nat)
  | setOffline (offline : Bool)

/-- A scheduler that works with a reputation book. -/
def Environment.overBook (seeds : SeedSource) (chain : ChainSnapshot) :
    Environment ReputationBook :=
  ⟨seeds, chain, ReputationBook.subtract⟩

/-- What a move does. -/
def Move.perform : Move → Operation Scheduler ReputationBook Error Answer
  | .operate seeds chain caller command =>
    Scheduler.perform (.overBook seeds chain) caller command
  | .setScore agent score => settle (Operation.call fun book => .ok (book.setScore agent score))
  | .setOffline offline => settle (Operation.call fun book => .ok (book.setOffline offline))

@[simp]
theorem Move.run_setScore (agent : Address) (score : Nat) (site : Site Scheduler ReputationBook) :
    (Move.setScore agent score).perform.run site =
      (.ok none, { site with outside := site.outside.setScore agent score }) := by
  simp [perform, settle]

@[simp]
theorem Move.run_setOffline (offline : Bool) (site : Site Scheduler ReputationBook) :
    (Move.setOffline offline).perform.run site =
      (.ok none, { site with outside := site.outside.setOffline offline }) := by
  simp [perform, settle]

/-! ## The invariant -/

/-- The book, the counts and the events agree about penalties, and each audit without an outcome may
still be penalized. -/
structure Charged (site : Site Scheduler ReputationBook) : Prop where
  penalties : site.outside.penalties = site.events.filterMap Event.penalty?
  counted : site.outside.penalties.length = site.state.stats.penaltiesApplied
  orderly : Orderly Rightful site.events
  due : ∀ job record, site.state.audit job = some record → record.completed = false →
    Due job record.agent site.events

theorem silent_of_amendment {command : Command} {change : Scheduler → Scheduler}
    {event : Scheduler → Event} (h : command.amendment = some (change, event)) (s : Scheduler) :
    (event s).IsSilent := by
  cases command <;> cases h <;> exact ⟨rfl, fun _ => rfl, fun _ => rfl⟩

/-- A silent event may follow, when the book stays as it is and no audit is opened. -/
theorem Charged.concat {before after : Site Scheduler ReputationBook} (h : Charged before)
    {event : Event} (hsilent : event.IsSilent) (hevents : after.events = before.events ++ [event])
    (houtside : after.outside = before.outside)
    (hcount : after.state.stats.penaltiesApplied = before.state.stats.penaltiesApplied)
    (hopen : ∀ job record, after.state.audit job = some record → record.completed = false →
      before.state.audit job = some record) : Charged after := by
  constructor
  case penalties =>
    rw [houtside, hevents, h.penalties, List.filterMap_append]
    simp [hsilent.penalty?]
  case counted =>
    rw [houtside, hcount]
    exact h.counted
  case orderly =>
    rw [hevents, orderly_concat]
    exact ⟨h.orderly, rightful_of_isSilent hsilent _⟩
  case due =>
    intro job record haudit hcompleted
    rw [hevents]
    have hdue := h.due job record (hopen job record haudit hcompleted) hcompleted
    exact hdue.concat (hsilent.schedules job) (hsilent.penalizes job)

theorem Charged.scheduled {before : Site Scheduler ReputationBook} (h : Charged before)
    (job : JobId) (record : Record) : Charged (Scheduler.afterScheduling before job record) := by
  constructor
  case penalties =>
    simp only [Scheduler.afterScheduling, h.penalties, List.filterMap_append]
    simp [Event.penalty?]
  case counted =>
    have hstats : (before.state.scheduled job record).stats.penaltiesApplied =
        before.state.stats.penaltiesApplied := by
      rw [Scheduler.stats_scheduled]
    exact h.counted.trans hstats.symm
  case orderly =>
    exact orderly_concat.mpr ⟨h.orderly, trivial⟩
  case due =>
    intro other found haudit hcompleted
    simp only [Scheduler.afterScheduling, Scheduler.audit_scheduled] at haudit ⊢
    by_cases hjob : job = other
    · subst hjob
      rw [if_pos rfl] at haudit
      cases haudit
      exact due_scheduled _ _ _ _ _
    · rw [if_neg hjob] at haudit
      exact (h.due other found haudit hcompleted).concat (by simp [Event.schedules, hjob]) rfl

theorem Scheduler.agent_of_penaltyFor {s : Scheduler} {record : Record} {passed : Bool}
    {agent : Address} {amount : Amount} (h : s.penaltyFor record passed = some (agent, amount)) :
    agent = record.agent := by
  rw [penaltyFor_eq] at h
  split at h <;> simp_all

theorem Charged.recorded {before : Site Scheduler ReputationBook} (h : Charged before)
    {caller : Address} {job : JobId} {found : Record} {passed : Bool} {book : ReputationBook}
    (hopen : before.state.openAudit caller job = .ok found)
    (hcharge : Scheduler.charge ReputationBook.subtract before.outside
      (before.state.penaltyFor found passed) = .ok book) (details : String) :
    Charged (Scheduler.afterRecording before book caller job found passed details) := by
  obtain ⟨-, -, haudit, hcompleted⟩ := Scheduler.openAudit_eq_ok.mp hopen
  have hothers : ∀ other record,
      (Scheduler.afterRecording before book caller job found passed details).state.audit other =
        some record → record.completed = false → job ≠ other ∧
          before.state.audit other = some record := by
    intro other record hother hrecord
    simp only [Scheduler.afterRecording, Scheduler.audit_recorded] at hother
    split at hother
    · cases hother
      cases hrecord
    · next hjob => exact ⟨hjob, hother⟩
  have hsilent : Event.IsSilent (.auditRecorded job caller passed details) :=
    ⟨rfl, fun _ => rfl, fun _ => rfl⟩
  cases hpenalty : before.state.penaltyFor found passed with
  | none =>
      rw [hpenalty] at hcharge
      cases hcharge
      refine h.concat hsilent ?_ rfl ?_ ?_
      · simp [Scheduler.afterRecording, hpenalty, Scheduler.outcomeEvents]
      · simp [Scheduler.afterRecording, hpenalty, Scheduler.recorded, Scheduler.Stats.complete]
      · intro other record hother hrecord
        exact (hothers other record hother hrecord).2
  | some penalty =>
      obtain ⟨agent, amount⟩ := penalty
      obtain rfl := Scheduler.agent_of_penaltyFor hpenalty
      rw [hpenalty] at hcharge
      have hbook := ReputationBook.penalties_of_subtract hcharge
      have hevents :
          (Scheduler.afterRecording before book caller job found passed details).events =
            before.events ++ [.auditRecorded job caller passed details] ++
              [.agentPenalized job found.agent amount] := by
        simp [Scheduler.afterRecording, hpenalty, Scheduler.outcomeEvents]
      have hdue := (h.due job found haudit hcompleted).concat (hsilent.schedules job)
        (hsilent.penalizes job)
      constructor
      case penalties =>
        rw [hevents, List.filterMap_append, List.filterMap_append, ← h.penalties]
        simp [Scheduler.afterRecording, hbook, Event.penalty?]
      case counted =>
        simp only [Scheduler.afterRecording, hbook, List.length_append, h.counted, hpenalty,
          Scheduler.stats_recorded]
        rfl
      case orderly =>
        rw [hevents, orderly_concat, orderly_concat]
        exact ⟨⟨h.orderly, trivial⟩, hdue⟩
      case due =>
        intro other record hother hrecord
        obtain ⟨hjob, hbefore⟩ := hothers other record hother hrecord
        rw [hevents]
        refine ((h.due other record hbefore hrecord).concat ?_ ?_).concat rfl ?_
        · exact hsilent.schedules other
        · exact hsilent.penalizes other
        · simp [Event.penalizes, hjob]

theorem Charged.step {seeds : SeedSource} {chain : ChainSnapshot} {caller : Address}
    {command : Command} {answer : Except Error Answer}
    {before after : Site Scheduler ReputationBook} (h : Charged before)
    (hstep : Step (.overBook seeds chain) caller before command answer after) :
    Charged after := by
  cases hstep with
  | refused _ cause => exact h
  | ignored _ _ _ => exact h
  | amended hcommand _ _ =>
      obtain ⟨hrecords, hstats⟩ := keeps_of_amendment hcommand before.state
      refine h.concat (silent_of_amendment hcommand before.state) rfl rfl ?_ ?_
      · exact congrArg Stats.penaltiesApplied hstats
      · intro job record haudit _
        rwa [Scheduler.audit, hrecords] at haudit
  | passed _ _ _ _ _ => exact ⟨h.penalties, h.counted, h.orderly, h.due⟩
  | scheduled _ _ _ _ _ _ => exact h.scheduled _ _
  | recorded hopen hcharge => exact h.recorded hopen hcharge _

theorem Charged.perform {move : Move} {before : Site Scheduler ReputationBook}
    (h : Charged before) : Charged (move.perform.run before).2 := by
  cases move with
  | operate seeds chain caller command => exact h.step (perform_step _ caller command before)
  | setScore agent score =>
      rw [Move.run_setScore]
      exact ⟨h.penalties, h.counted, h.orderly, h.due⟩
  | setOffline offline =>
      rw [Move.run_setOffline]
      exact ⟨h.penalties, h.counted, h.orderly, h.due⟩

theorem charged_start {authority : Address} {settings : Settings} {sinkConnected : Bool}
    {s : Scheduler} (h : Scheduler.make authority settings sinkConnected = .ok s) :
    Charged (Site.start s ReputationBook.empty) := by
  obtain ⟨hrecords, hstats⟩ := Scheduler.blank_of_make h
  refine ⟨rfl, ?_, orderly_nil _, ?_⟩
  · simp only [Site.start, hstats]
    rfl
  · intro job record haudit _
    simp [Site.start, Scheduler.audit, hrecords] at haudit

/-! ## Recording an outcome -/

/-- An outcome that is recorded takes one penalty or none, as the scheduler says. -/
theorem penalties_of_record {site : Site Scheduler ReputationBook} {seeds : SeedSource}
    {chain : ChainSnapshot} {caller : Address} {job : JobId} {passed : Bool} {details : String}
    {answer : Answer}
    (h : ((Move.operate seeds chain caller (.record job passed details)).perform.run site).1 =
      .ok answer) :
    ∃ found, site.state.audit job = some found ∧ found.completed = false ∧
      ((Move.operate seeds chain caller
          (.record job passed details)).perform.run site).2.outside.penalties =
        site.outside.penalties ++
          if passed = false ∧ site.state.sinkConnected = true ∧ site.state.penalty.units ≠ 0 then
            [(found.agent, site.state.penalty)]
          else [] := by
  have hstep := perform_step (.overBook seeds chain) caller (.record job passed details) site
  simp only [Move.perform] at h ⊢
  rw [h] at hstep
  generalize ((Scheduler.perform (.overBook seeds chain) caller
    (.record job passed details)).run site).2 = after at hstep ⊢
  cases hstep with
  | amended hcommand _ _ => cases hcommand
  | @recorded _ _ _ found book hopen hcharge =>
      obtain ⟨-, -, haudit, hcompleted⟩ := Scheduler.openAudit_eq_ok.mp hopen
      refine ⟨found, haudit, hcompleted, ?_⟩
      rw [Scheduler.penaltyFor_eq] at hcharge
      simp only [Scheduler.afterRecording]
      split at hcharge
      · next hdue =>
          rw [if_pos hdue]
          exact ReputationBook.penalties_of_subtract hcharge
      · next hdue =>
          rw [if_neg hdue, List.append_nil]
          cases hcharge
          rfl

theorem openAudit_ne_collaborator (s : Scheduler) (caller : Address) (job : JobId)
    (cause : CollaboratorError) : s.openAudit caller job ≠ .error (.collaborator cause) := by
  rw [Scheduler.openAudit_eq]
  grind

theorem charge_online (book : ReputationBook) (penalty : Option (Address × Amount)) :
    ∃ after, Scheduler.charge ReputationBook.subtract (book.setOffline false) penalty =
      .ok after := by
  cases penalty with
  | none => exact ⟨_, rfl⟩
  | some penalty => exact ⟨_, ReputationBook.subtract_eq_ok.mpr ⟨rfl, rfl⟩⟩

/-- Only the book refuses an outcome for a collaborator's reason. Then nothing has changed, and the
outcome can be recorded once the book is back. -/
theorem record_after_refusal {site : Site Scheduler ReputationBook} {seeds : SeedSource}
    {chain : ChainSnapshot} {caller : Address} {job : JobId} {passed : Bool} {details : String}
    {cause : CollaboratorError}
    (h : ((Move.operate seeds chain caller (.record job passed details)).perform.run site).1 =
      .error (.collaborator cause)) :
    ((Move.operate seeds chain caller (.record job passed details)).perform.run site).2 = site ∧
      ∃ found, site.state.audit job = some found ∧ found.completed = false ∧
        ((Move.operate seeds chain caller (.record job passed details)).perform.run
          { site with outside := site.outside.setOffline false }).1 =
            .ok (some { found with completed := true, passed }) := by
  have hstep := perform_step (.overBook seeds chain) caller (.record job passed details) site
  simp only [Move.perform] at h ⊢
  rw [h] at hstep
  refine ⟨hstep.eq_of_error, ?_⟩
  rw [Scheduler.perform, Operation.run_bind, Scheduler.run_record] at h
  cases hopen : site.state.openAudit caller job with
  | error refusal =>
      rw [hopen] at h
      cases h
      exact absurd hopen (openAudit_ne_collaborator _ _ _ _)
  | ok found =>
      obtain ⟨-, -, haudit, hcompleted⟩ := Scheduler.openAudit_eq_ok.mp hopen
      obtain ⟨book, hcharge⟩ := charge_online site.outside (site.state.penaltyFor found passed)
      refine ⟨found, haudit, hcompleted, ?_⟩
      rw [Scheduler.perform, Operation.run_bind, Scheduler.run_record]
      simp only [hopen, Environment.overBook, hcharge]
      rfl

/-! ## Scores -/

/-- A move that sets the score of an agent. -/
def Move.Scores (agent : Address) : Move → Prop
  | .setScore scored _ => scored = agent
  | _ => False

theorem onlyPenalized_of_step {seeds : SeedSource} {chain : ChainSnapshot} {caller : Address}
    {command : Command} {answer : Except Error Answer}
    {before after : Site Scheduler ReputationBook}
    (hstep : Step (.overBook seeds chain) caller before command answer after) (agent : Address) :
    ReputationBook.OnlyPenalized agent before.outside after.outside := by
  cases hstep with
  | @recorded _ passed _ found book _ hcharge =>
      cases hpenalty : before.state.penaltyFor found passed with
      | none =>
          rw [hpenalty] at hcharge
          cases hcharge
          exact .refl agent _
      | some penalty =>
          rw [hpenalty] at hcharge
          exact ReputationBook.onlyPenalized_of_subtract hcharge agent
  | _ => exact .refl agent _

theorem onlyPenalized_perform {move : Move} {agent : Address} (hscores : ¬move.Scores agent)
    (before : Site Scheduler ReputationBook) :
    ReputationBook.OnlyPenalized agent before.outside (move.perform.run before).2.outside := by
  cases move with
  | operate seeds chain caller command =>
      exact onlyPenalized_of_step (perform_step _ caller command before) agent
  | setScore scored score =>
      rw [Move.run_setScore]
      have hother : scored ≠ agent := hscores
      refine ⟨[], by simp [ReputationBook.setScore], ?_⟩
      rw [ReputationBook.score_setScore, if_neg hother]
      rfl
  | setOffline offline =>
      rw [Move.run_setOffline]
      exact ⟨[], by simp [ReputationBook.setOffline], rfl⟩

theorem onlyPenalized_play {agent : Address} {moves : List Move}
    (hmoves : ∀ move ∈ moves, ¬move.Scores agent) (site : Site Scheduler ReputationBook) :
    ReputationBook.OnlyPenalized agent site.outside
      (site.play Move.perform moves).outside :=
  Site.play_induction
    (P := fun later => ReputationBook.OnlyPenalized agent site.outside later.outside)
    (.refl agent _)
    fun move hmove before hbefore =>
      hbefore.trans (onlyPenalized_perform (hmoves move hmove) before)

/-- After its score was set, an agent has that score less the penalties since. -/
theorem score_play_setScore (start : Site Scheduler ReputationBook) (before : List Move)
    {agent : Address} (score : Nat) {after : List Move}
    (hafter : ∀ move ∈ after, ¬move.Scores agent) :
    let site := start.play Move.perform (before ++ .setScore agent score :: after)
    ∃ later,
      site.outside.penalties = (start.play Move.perform before).outside.penalties ++ later ∧
      site.outside.score agent = score - ReputationBook.costs agent later := by
  intro site
  let middle := start.play Move.perform before
  have hsite : site = Site.play Move.perform
      { middle with outside := middle.outside.setScore agent score } after := by
    simp only [site, Site.play_append, Site.play_cons, Move.run_setScore, middle]
  obtain ⟨later, hpenalties, hscore⟩ := onlyPenalized_play hafter
    { middle with outside := middle.outside.setScore agent score }
  rw [← hsite] at hpenalties hscore
  refine ⟨later, hpenalties, ?_⟩
  rw [hscore, ReputationBook.score_setScore, if_pos rfl]

/-- An agent whose score was never set has none. -/
theorem score_play_of_not_scores (s : Scheduler) {agent : Address} {moves : List Move}
    (hmoves : ∀ move ∈ moves, ¬move.Scores agent) :
    ((Site.start s ReputationBook.empty).play Move.perform moves).outside.score agent = 0 := by
  obtain ⟨later, -, hscore⟩ := onlyPenalized_play hmoves (Site.start s ReputationBook.empty)
  have hnothing : (Site.start s ReputationBook.empty).outside.score agent = 0 := rfl
  rw [hscore, hnothing, Nat.zero_sub]

/-- Whatever is done with a scheduler that was made and with its reputation book, short of penalties
that others take: the book's penalties are those that the events tell of, in their order, and as
many as were counted. Each is for an audit that was scheduled for its agent and, between two
schedulings of a job, there is at most one. An outcome that is recorded takes one penalty or none,
and one that the book refuses leaves everything as it was and can be recorded when the book is back.
A score is what it was last set to, zero if it never was, less the penalties since. -/
theorem penalties_play {authority : Address} {settings : Settings} {sinkConnected : Bool}
    {s : Scheduler} (h : Scheduler.make authority settings sinkConnected = .ok s)
    (moves : List Move) :
    let start := Site.start s ReputationBook.empty
    let site := start.play Move.perform moves
    site.outside.penalties = site.events.filterMap Event.penalty? ∧
      site.outside.penalties.length = site.state.stats.penaltiesApplied ∧
      Orderly Rightful site.events ∧
      (∀ job before between after, site.events = before ++ between ++ after →
        (∀ event ∈ between, event.schedules job = false) →
          between.countP (Event.penalizes job) ≤ 1) ∧
      (∀ seeds chain caller job passed details,
        let record := Move.operate seeds chain caller (.record job passed details)
        (∀ answer, (record.perform.run site).1 = .ok answer →
          ∃ found, site.state.audit job = some found ∧ found.completed = false ∧
            (record.perform.run site).2.outside.penalties = site.outside.penalties ++
              if passed = false ∧ site.state.sinkConnected = true ∧
                  site.state.penalty.units ≠ 0 then
                [(found.agent, site.state.penalty)]
              else []) ∧
        ∀ cause, (record.perform.run site).1 = .error (.collaborator cause) →
          (record.perform.run site).2 = site ∧
            ∃ found, site.state.audit job = some found ∧ found.completed = false ∧
              (record.perform.run { site with outside := site.outside.setOffline false }).1 =
                .ok (some { found with completed := true, passed })) ∧
      ∀ agent,
        ((∀ move ∈ moves, ¬move.Scores agent) → site.outside.score agent = 0) ∧
        ∀ before score after, moves = before ++ .setScore agent score :: after →
          (∀ move ∈ after, ¬move.Scores agent) →
            ∃ later,
              site.outside.penalties =
                (start.play Move.perform before).outside.penalties ++ later ∧
              site.outside.score agent = score - ReputationBook.costs agent later := by
  intro start site
  have hcharged : Charged site :=
    Site.play_induction (charged_start h) fun move _ before hbefore => hbefore.perform
  refine ⟨hcharged.penalties, hcharged.counted, hcharged.orderly, ?_, ?_, ?_⟩
  · intro job before between after hsplit hbetween
    exact countP_penalizes_le_one hcharged.orderly hsplit hbetween
  · intro seeds chain caller job passed details record
    exact ⟨fun answer hok => penalties_of_record hok, fun cause herror =>
      record_after_refusal herror⟩
  · intro agent
    refine ⟨score_play_of_not_scores s, ?_⟩
    intro before score after hsplit hafter
    simp only [site, hsplit]
    exact score_play_setScore start before score hafter

/-- The outcome that the book refuses while it is offline is recorded afterwards, and the penalty
takes all that is left of the score; a second audit of the job costs its agent another penalty. -/
theorem penalties_play_offline :
    let holder := Address.filled 0xA1
    let agent := Address.filled 0xAB
    let amount := Amount.ofNat 5
    let settings : Settings := ⟨holder, 10000, amount, [holder], .lastWriteWins⟩
    let s : Scheduler := ⟨⟨holder⟩, holder, [holder], 10000, amount, true, .lastWriteWins,
      false, Table.empty, Stats.zero⟩
    let job := JobId.ofNat 7
    let operate := Move.operate (constantSeed Word.zero) ⟨Word.zero, 0⟩ holder
    let moves : List Move := [
      operate (.finalize job agent true Word.zero),
      .setScore agent 3,
      .setOffline true,
      operate (.record job false ""),
      .setOffline false,
      operate (.record job false ""),
      operate (.finalize job agent true Word.zero),
      operate (.record job false "")]
    let site := (Site.start s ReputationBook.empty).play Move.perform moves
    Scheduler.make holder settings true = .ok s ∧
      site.outside.penalties = [(agent, amount), (agent, amount)] ∧
      site.outside.score agent = 0 ∧ site.state.stats.penaltiesApplied = 2 ∧
      site.outside.penalties = site.events.filterMap Event.penalty? := by
  intro holder agent amount settings s job operate moves site
  have hmake : Scheduler.make holder settings true = .ok s := rfl
  have htold : site.outside.penalties = site.events.filterMap Event.penalty? := by
    with_reducible exact (penalties_play hmake moves).1
  exact ⟨hmake, by decide +kernel, by decide +kernel, by decide +kernel, htold⟩

end Audit

end Integrity
