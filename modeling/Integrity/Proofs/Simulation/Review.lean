import Integrity.Proofs.Audit.Frequency
import Integrity.Proofs.Reputation.Book
import Integrity.Proofs.Simulation.Steering

/-! # Jobs of a demonstration

The jobs are reported one after the other, and an audit has its outcome before the next job is
reported. So no audit is ever pending between two jobs, and the counts are those of the jobs that
their seeds selected, whatever the seeds are. -/

namespace Integrity

theorem JobRegistry.employerOf_register (registry : JobRegistry) (job other : JobId)
    (employer : Address) :
    (registry.register job employer).employerOf other =
      if job = other then .ok employer else registry.employerOf other := by
  rw [employerOf, register, Table.get?_insert]
  by_cases hjob : job = other
  · rw [if_pos hjob, if_pos hjob]
  · rw [if_neg hjob, if_neg hjob, employerOf]

namespace Simulation.Demonstration

open Operation
open Audit (Scheduler SeedSource Stats Roster)

/-! ## The counts -/

/-- Whether the seed of a job, in the block in which it is reported, selects it for an audit. -/
def isAudited (seeds : SeedSource) (config : Config) (block : Nat → ChainSnapshot) (job : Nat) :
    Bool :=
  Audit.isSelected (seeds ⟨JobId.ofNat job, agent, Word.filled (UInt8.ofNat job)⟩ (block job))
    config.audit.probability

/-- The counts when some jobs were reported and these of them were audited. -/
def counts (config : Config) (reported : Nat) (audited : List Nat) : Stats where
  evaluated := if config.audit.probability = 0 then 0 else reported
  scheduled := audited.length
  replaced := 0
  completed := audited.length
  passed := audited.countP (· != 2)
  failed := audited.countP (· == 2)
  penaltiesApplied := if config.audit.penalty.isZero then 0 else audited.countP (· == 2)
  pending := 0

theorem counts_nothing (config : Config) : counts config 0 [] = Stats.zero := by
  simp [counts, Stats.zero]

section Counts

variable {config : Config} (reported : Nat) (audited : List Nat)

theorem counts_of_zero (h : config.audit.probability = 0) :
    counts config (reported + 1) audited = counts config reported audited := by
  simp only [counts, if_pos h]

theorem counts_evaluated (h : config.audit.probability ≠ 0) :
    { counts config reported audited with
        evaluated := (counts config reported audited).evaluated + 1 } =
      counts config (reported + 1) audited := by
  simp only [counts, if_neg h]

/-- An audit that has its outcome at once leaves none pending. -/
theorem counts_concat (job : Nat) :
    Scheduler.Stats.complete (Scheduler.Stats.schedule (counts config reported audited) none)
        (job != 2) (job == 2 && !config.audit.penalty.isZero) =
      counts config reported (audited ++ [job]) := by
  by_cases hjob : job = 2 <;> cases hpenalty : config.audit.penalty.isZero <;>
    simp [counts, Scheduler.Stats.schedule, Scheduler.Stats.complete, hjob, hpenalty]

end Counts

/-- At the probability zero no seed selects a job, and at certainty every seed does. -/
theorem isAudited_zero {config : Config} (h : config.audit.probability = 0) (seeds : SeedSource)
    (block : Nat → ChainSnapshot) (job : Nat) : isAudited seeds config block job = false := by
  rw [isAudited, h]
  exact Audit.isSelected_zero _

theorem isAudited_certainty {config : Config} (h : config.audit.probability = 10000)
    (seeds : SeedSource) (block : Nat → ChainSnapshot) (job : Nat) :
    isAudited seeds config block job = true := by
  rw [isAudited, h]
  exact Audit.isSelected_certainty _

/-! ## An engine that audits -/

/-- The scheduler of a demonstration with these audits and counts. -/
def reviewer (config : Config) (roster : Roster) (records : Table JobId Audit.Record)
    (stats : Stats) : Scheduler :=
  { config.scheduler roster true with records, stats }

/-- An engine that audits with this scheduler, and takes penalties. -/
structure Audits (seeds : SeedSource) (s : Scheduler) (engine : Engine) : Prop where
  scheduler : engine.audit = some s
  online : engine.collaborators.book.offline = false
  seeds : engine.collaborators.seeds = seeds

section Audits

variable {seeds : SeedSource} {config : Config} {block : Nat → ChainSnapshot} {roster : Roster}
  {records : Table JobId Audit.Record} {s : Scheduler} {engine after : Engine}

theorem Audits.of_lane (h : Audits seeds s engine)
    (hlane : after.lane .audit = engine.lane .audit) : Audits seeds s after := by
  obtain ⟨haudit, hbook, -, hseeds⟩ :=
    Engine.Part.audit.inj (Engine.Lane.mk.inj hlane).1
  exact
    { scheduler := haudit.trans h.scheduler
      online := hbook ▸ h.online
      seeds := hseeds.trans h.seeds }

/-- The seeds do not depend on the block before. -/
theorem Audits.moveChain (h : Audits seeds s engine) (chain : ChainSnapshot) :
    Audits seeds s
      (engine.withCollaborators { engine.collaborators with chain }) :=
  ⟨h.scheduler, h.online, h.seeds⟩

/-- An operation that succeeds and leaves the book online leaves the engine to the next. -/
theorem Audits.of_run (h : Audits seeds s engine) (now : Timestamp) {chain : ChainSnapshot}
    (hchain : engine.collaborators.chain = chain) {caller : Address} {command : Audit.Command}
    {answer : Audit.Answer} {site : Site Scheduler ReputationBook}
    (hrun : (Scheduler.perform ⟨seeds, chain, ReputationBook.subtract⟩ caller command).run
      (.start s engine.collaborators.book) = (.ok answer, site))
    (honline : site.outside.offline = false) :
    ∃ after, perform now (.audit caller command) engine = .ok (after, .audit answer) ∧
      Audits seeds site.state after := by
  have henv : Engine.auditEnvironment engine.collaborators =
      ⟨seeds, chain, ReputationBook.subtract⟩ := by
    rw [Engine.auditEnvironment, h.seeds, hchain]
  rw [← henv] at hrun
  exact ⟨_, perform_audit now h.scheduler hrun, rfl, honline, h.seeds⟩

/-! ## One job and its audit -/

variable {job : Nat}

variable (seeds block roster) in
/-- A report of a job that has no audit yet gets as far as its seed, unless no job is audited. -/
theorem run_report (hnotifier : config.audit.notifier.isNull = false)
    (hfree : records.get? (JobId.ofNat job) = none) (stats : Stats) (book : ReputationBook) :
    (Scheduler.perform ⟨seeds, block job, ReputationBook.subtract⟩ config.audit.notifier
      (.finalize (JobId.ofNat job) agent true (Word.filled (UInt8.ofNat job)))).run
        (.start (reviewer config roster records stats) book) =
      if config.audit.probability = 0 then
        (.ok none, .start (reviewer config roster records stats) book)
      else if isAudited seeds config block job then
        let record : Audit.Record :=
          ⟨agent, Word.filled (UInt8.ofNat job),
            seeds ⟨JobId.ofNat job, agent, Word.filled (UInt8.ofNat job)⟩ (block job),
            (block job).timestamp, false, false⟩
        (.ok (some record),
          Scheduler.afterScheduling (.start (reviewer config roster records stats) book)
            (JobId.ofNat job) record)
      else
        (.ok none,
          Scheduler.afterPassing (.start (reviewer config roster records stats) book)) := by
  have hrunning : (reviewer config roster records stats).ensureRunning = .ok () := rfl
  have hpassed : (reviewer config roster records stats).ensureNotifier config.audit.notifier =
      .ok () := by
    simp [Scheduler.ensureNotifier, reviewer, Config.scheduler, hnotifier]
  have hnone : (reviewer config roster records stats).audit (JobId.ofNat job) = none := hfree
  have hidle : (reviewer config roster records stats).Idle agent true ↔
      config.audit.probability = 0 := by
    have hagent : agent.isNull = false := by decide
    simp [Scheduler.Idle, hagent, reviewer, Config.scheduler]
  rw [Scheduler.perform, Scheduler.run_finalize]
  simp only [Site.start, hrunning, hpassed, hnone, hidle, Option.isSome_none, Bool.false_eq_true,
    false_and, if_false]
  rfl

variable {reported : Nat} {audited : List Nat} (now : Timestamp)

theorem Audits.report_of_not_audited
    (h : Audits seeds (reviewer config roster records (counts config reported audited)) engine)
    (hchain : engine.collaborators.chain = block job)
    (hnotifier : config.audit.notifier.isNull = false)
    (hfree : records.get? (JobId.ofNat job) = none)
    (haudited : isAudited seeds config block job = false) :
    ∃ after,
      perform now (.audit config.audit.notifier
        (.finalize (JobId.ofNat job) agent true (Word.filled (UInt8.ofNat job)))) engine =
          .ok (after, .audit none) ∧
      Audits seeds (reviewer config roster records (counts config (reported + 1) audited))
        after := by
  have hrun := run_report seeds block roster hnotifier hfree (counts config reported audited)
    engine.collaborators.book
  rw [haudited] at hrun
  by_cases hzero : config.audit.probability = 0
  · rw [if_pos hzero] at hrun
    rw [counts_of_zero reported audited hzero]
    exact h.of_run now hchain hrun h.online
  · rw [if_neg hzero] at hrun
    rw [← counts_evaluated reported audited hzero]
    exact h.of_run now hchain hrun h.online

theorem Audits.report_of_audited
    (h : Audits seeds (reviewer config roster records (counts config reported audited)) engine)
    (hchain : engine.collaborators.chain = block job)
    (hnotifier : config.audit.notifier.isNull = false)
    (hfree : records.get? (JobId.ofNat job) = none)
    (haudited : isAudited seeds config block job = true) :
    ∃ (record : Audit.Record) (after : Engine), record.completed = false ∧
      perform now (.audit config.audit.notifier
        (.finalize (JobId.ofNat job) agent true (Word.filled (UInt8.ofNat job)))) engine =
          .ok (after, .audit (some record)) ∧
      Audits seeds
        (reviewer config roster (records.insert (JobId.ofNat job) record)
          (Scheduler.Stats.schedule (counts config (reported + 1) audited) none)) after := by
  have hzero : config.audit.probability ≠ 0 := by
    intro hzero
    rw [isAudited_zero hzero] at haudited
    cases haudited
  have hrun := run_report seeds block roster hnotifier hfree (counts config reported audited)
    engine.collaborators.book
  rw [if_neg hzero, if_pos haudited] at hrun
  obtain ⟨after, hperform, hafter⟩ := h.of_run now hchain hrun h.online
  refine ⟨_, after, rfl, hperform, ?_⟩
  simp only [Scheduler.afterScheduling, Scheduler.scheduled, Scheduler.audit, Site.start, reviewer,
    hfree] at hafter
  rw [← counts_evaluated reported audited hzero]
  exact hafter

/-- The outcome of an audit is recorded as soon as it is scheduled, and costs a penalty if it is bad
and there is one. -/
theorem Audits.outcome {auditor : Address} (hauditor : auditor ∈ roster) {record : Audit.Record}
    (hrecord : record.completed = false)
    (h : Audits seeds
      (reviewer config roster (records.insert (JobId.ofNat job) record)
        (Scheduler.Stats.schedule (counts config reported audited) none)) engine) :
    ∃ (updated : Audit.Record) (after : Engine),
      perform now (.audit auditor (.record (JobId.ofNat job) (job != 2) "demo review")) engine =
        .ok (after, .audit (some updated)) ∧
      Audits seeds
        (reviewer config roster
          ((records.insert (JobId.ofNat job) record).insert (JobId.ofNat job) updated)
          (counts config reported (audited ++ [job]))) after := by
  let s := reviewer config roster (records.insert (JobId.ofNat job) record)
    (Scheduler.Stats.schedule (counts config reported audited) none)
  have hopen : s.openAudit auditor (JobId.ofNat job) = .ok record := by
    refine Scheduler.openAudit_eq_ok.mpr ⟨rfl, List.contains_iff_mem.mpr hauditor, ?_, hrecord⟩
    exact (Table.get?_insert _ _ _ _).trans (if_pos rfl)
  have hpenalty : (s.penaltyFor record (job != 2)).isSome =
      (job == 2 && !config.audit.penalty.isZero) := by
    have hnot : (!(job != 2)) = (job == 2) := Bool.not_not _
    simp only [Scheduler.penaltyFor, s, reviewer, Config.scheduler, hnot, Bool.true_and]
    cases job == 2 && !config.audit.penalty.isZero <;> rfl
  obtain ⟨book, hcharge, hbook⟩ : ∃ book,
      Scheduler.charge ReputationBook.subtract engine.collaborators.book
        (s.penaltyFor record (job != 2)) = .ok book ∧ book.offline = false := by
    cases s.penaltyFor record (job != 2) with
    | none => exact ⟨_, rfl, h.online⟩
    | some penalty => exact ⟨_, ReputationBook.subtract_eq_ok.mpr ⟨h.online, rfl⟩, h.online⟩
  have hrun : (Scheduler.perform
      ⟨seeds, engine.collaborators.chain, ReputationBook.subtract⟩ auditor
      (.record (JobId.ofNat job) (job != 2) "demo review")).run
        (.start s engine.collaborators.book) =
      (.ok (some { record with completed := true, passed := job != 2 }),
        Scheduler.afterRecording (.start s engine.collaborators.book) book auditor
          (JobId.ofNat job) record (job != 2) "demo review") := by
    rw [Scheduler.perform, run_bind, Scheduler.run_record]
    simp only [Site.start, hopen, hcharge, run_pure]
  obtain ⟨after, hperform, hafter⟩ := h.of_run now rfl hrun hbook
  refine ⟨_, after, hperform, ?_⟩
  simp only [Scheduler.afterRecording, Scheduler.recorded, Site.start, hpenalty] at hafter
  rw [← counts_concat reported audited job]
  exact hafter

end Audits

/-! ## What jobs leave as it is -/

/-- An engine that jobs are registered with and reported to, all else being as it was at the
start. -/
structure Beside (start : Engine) (registry : JobRegistry) (engine : Engine) : Prop where
  temperature : engine.lane .temperature = start.lane .temperature
  disputes : engine.part .disputes =
    .disputes start.disputes start.collaborators.ledger registry start.collaborators.pool

section Beside

variable {start engine after : Engine} {registry : JobRegistry} (now : Timestamp)

theorem Beside.register (h : Beside start registry engine) (job : JobId) (employer : Address) :
    ∃ after, perform now (.register job employer) engine = .ok (after, .done) ∧
      after.lane .audit = engine.lane .audit ∧
      Beside start (registry.register job employer) after := by
  obtain ⟨hresolver, hledger, rfl, hpool⟩ := Engine.Part.disputes.inj h.disputes
  refine ⟨_, rfl, rfl, h.temperature, ?_⟩
  rw [← hresolver, ← hledger, ← hpool]
  rfl

theorem Beside.moveChain (h : Beside start registry engine) (chain : ChainSnapshot) :
    Beside start registry
      (engine.withCollaborators { engine.collaborators with chain }) :=
  ⟨h.temperature, h.disputes⟩

theorem Beside.audit (h : Beside start registry engine) {caller : Address}
    {command : Audit.Command} {answer : Engine.Answer}
    (hperform : perform now (.audit caller command) engine = .ok (after, answer)) :
    Beside start registry after := by
  have htemperature := lane_of_perform now hperform (show _ ≠ Subsystem.temperature from nofun)
  have hdisputes := lane_of_perform now hperform (show _ ≠ Subsystem.disputes from nofun)
  exact ⟨htemperature.trans h.temperature, (Engine.Lane.mk.inj hdisputes).1.trans h.disputes⟩

end Beside

/-! ## One job after the other -/

/-- A registry that knows who employs the agent for these jobs. -/
def Employs (registry : JobRegistry) (done : List Nat) : Prop :=
  ∀ job ∈ done, registry.employerOf (JobId.ofNat job) = .ok employer

theorem Employs.register {registry : JobRegistry} {done : List Nat} (h : Employs registry done)
    (job : Nat) : Employs (registry.register (JobId.ofNat job) employer) (done ++ [job]) := by
  intro other hother
  rw [JobRegistry.employerOf_register]
  split
  · rfl
  · next hne =>
    rcases List.mem_append.mp hother with hdone | hjob
    · exact h other hdone
    · rw [List.mem_singleton.mp hjob] at hne
      exact absurd rfl hne

/-- Audits of no other jobs than these. -/
def Covers (records : Table JobId Audit.Record) (done : List Nat) : Prop :=
  ∀ id ∉ done.map JobId.ofNat, records.get? id = none

theorem Covers.append {records : Table JobId Audit.Record} {done : List Nat}
    (h : Covers records done) (job : Nat) : Covers records (done ++ [job]) := by
  intro id hid
  rw [List.map_append, List.mem_append, not_or] at hid
  exact h id hid.1

theorem Covers.insert {records : Table JobId Audit.Record} {done : List Nat} {job : Nat}
    (h : Covers records (done ++ [job])) (record : Audit.Record) :
    Covers (records.insert (JobId.ofNat job) record) (done ++ [job]) := by
  intro id hid
  have hne : JobId.ofNat job ≠ id := by
    rintro rfl
    exact hid (List.mem_map_of_mem (List.mem_append_right _ (List.mem_singleton_self job)))
  rw [Table.get?_insert, if_neg hne, h id hid]

/-- An engine after these jobs. -/
structure Reviewed (seeds : SeedSource) (config : Config) (block : Nat → ChainSnapshot)
    (roster : Roster) (start : Engine) (done : List Nat) (engine : Engine) : Prop where
  audits : ∃ records, Covers records done ∧
    Audits seeds
      (reviewer config roster records
        (counts config done.length (done.filter (isAudited seeds config block)))) engine
  beside : ∃ registry, Employs registry done ∧ Beside start registry engine

section Reviewed

variable {seeds : SeedSource} {config : Config} {roster : Roster} {start engine : Engine}
  {done : List Nat} {auditor : Address} (clock : Clock)
  (hnotifier : config.audit.notifier.isNull = false) (hauditor : auditor ∈ roster)
include hnotifier hauditor

theorem Reviewed.runJob (h : Reviewed seeds config clock.block roster start done engine) {job : Nat}
    (hfresh : JobId.ofNat job ∉ done.map JobId.ofNat) :
    ∃ after, runJob clock config auditor engine job = .ok after ∧
      Reviewed seeds config clock.block roster start (done ++ [job]) after := by
  obtain ⟨records, hcovers, haudits⟩ := h.audits
  obtain ⟨registry, hemploys, hbeside⟩ := h.beside
  obtain ⟨registered, hregister, hlane, hbeside⟩ :=
    hbeside.register (clock.report job) (JobId.ofNat job) employer
  have hready := (haudits.of_lane hlane).moveChain (clock.block job)
  have hbeside := hbeside.moveChain (clock.block job)
  have hfree : records.get? (JobId.ofNat job) = none := hcovers _ hfresh
  cases haudited : isAudited seeds config clock.block job with
  | false =>
      obtain ⟨after, hreport, hafter⟩ :=
        hready.report_of_not_audited (clock.report job) rfl hnotifier hfree haudited
      refine ⟨after, ?_, ⟨records, hcovers.append job, ?_⟩,
        _, hemploys.register job, hbeside.audit (clock.report job) hreport⟩
      · simp only [Demonstration.runJob, hregister, perform_moveChain, hreport, bind, Except.bind]
        rfl
      · simpa [List.filter_append, haudited] using hafter
  | true =>
      obtain ⟨record, middle, hrecord, hreport, hmiddle⟩ :=
        hready.report_of_audited (clock.report job) rfl hnotifier hfree haudited
      obtain ⟨updated, after, houtcome, hafter⟩ :=
        hmiddle.outcome (clock.outcome job) hauditor hrecord
      have hbeside := (hbeside.audit (clock.report job) hreport).audit (clock.outcome job) houtcome
      refine ⟨after, ?_, ⟨_, ((hcovers.append job).insert record).insert updated, ?_⟩,
        _, hemploys.register job, hbeside⟩
      · simp only [Demonstration.runJob, hregister, perform_moveChain, hreport, houtcome, bind,
          Except.bind]
        rfl
      · simpa [List.filter_append, haudited] using hafter

/-- The jobs of a list are done one after the other, when none is done twice. -/
theorem Reviewed.runJobs {jobs : List Nat}
    (h : Reviewed seeds config clock.block roster start done engine)
    (hfresh : ((done ++ jobs).map JobId.ofNat).Nodup) :
    ∃ after, jobs.foldlM (Demonstration.runJob clock config auditor) engine = .ok after ∧
      Reviewed seeds config clock.block roster start (done ++ jobs) after := by
  induction jobs generalizing done engine with
  | nil => exact ⟨engine, rfl, by rwa [List.append_nil]⟩
  | cons job rest ih =>
      have hjob : JobId.ofNat job ∉ done.map JobId.ofNat := by
        rw [List.map_append, List.map_cons] at hfresh
        exact fun hmem =>
          (List.nodup_append.mp hfresh).2.2 _ hmem _ List.mem_cons_self rfl
      rw [List.append_cons] at hfresh ⊢
      obtain ⟨middle, hmiddle, hnext⟩ := h.runJob clock hnotifier hauditor hjob
      obtain ⟨after, hafter, hreviewed⟩ := ih hnext hfresh
      refine ⟨after, ?_, hreviewed⟩
      rw [List.foldlM_cons, hmiddle]
      exact hafter

end Reviewed

end Simulation.Demonstration

end Integrity
