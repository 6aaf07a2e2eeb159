import Integrity.Proofs.Engine.Start
import Integrity.Proofs.Simulation.Settlement

/-! # When a demonstration completes

A demonstration asks four things of its configuration: that it is valid, that it names an auditor,
that the validators can form its juries, and that the appellant can pay its bond. Nothing else can
stop it, whoever has which role and whatever the seeds are. -/

namespace Integrity.Simulation.Demonstration

open Audit (SeedSource Stats)
open Temperature (Controller)

/-! ## What the engine works with -/

/-- What a demonstration gives its engine to work with. -/
structure Supplied (seeds : SeedSource) (config : Config) (c : Collaborators) : Prop where
  funded : Funded funds.units c.ledger
  online : c.book.offline = false
  pool : c.pool = ⟨validators, max config.disputes.minJurySize.toNat 1⟩
  seeds : c.seeds = seeds

theorem funded_start : Funded funds.units (Ledger.empty.write appellant funds) := by
  refine ⟨rfl, ?_, fun account => ?_⟩
  · rw [Ledger.balance_write, if_pos rfl]
  · rw [Ledger.balance_write]
    split
    · exact Nat.le_refl _
    · exact Nat.zero_le _

theorem exists_collaborators (seeds : SeedSource) (config : Config) (block : ChainSnapshot) :
    ∃ c, collaborators seeds config block = .ok c ∧ Supplied seeds config c := by
  have hcredit : Ledger.empty.credit appellant funds = .ok (Ledger.empty.write appellant funds) :=
    Ledger.credit_eq_ok.mpr ⟨funds, rfl, rfl⟩
  rw [collaborators, hcredit]
  exact ⟨_, rfl, funded_start, rfl, rfl, rfl⟩

/-! ## Before the first dispute -/

/-- An engine whose controller made all control steps of a demonstration and stayed within its
bounds, and then gave validators the lower one. -/
def Tempered (config : Config) (engine : Engine) : Prop :=
  ∃ last, (config.controller config.temperature.authority).follow steps = .ok last ∧
    (Temperature.Bounds.mk config.temperature.minBound.toInt
      config.temperature.maxBound.toInt).Admits last.temperature ∧
    Steered
      { last with
        overrides := Table.empty.insert .validator config.temperature.minBound.toInt }
      steps.length engine

theorem Tempered.of_lane {config : Config} {engine after : Engine} (h : Tempered config engine)
    (hlane : after.lane .temperature = engine.lane .temperature) : Tempered config after := by
  obtain ⟨last, hfollow, hadmits, hsteered⟩ := h
  exact ⟨last, hfollow, hadmits, hsteered.of_lane hlane⟩

/-- An engine whose scheduler counted the jobs of a demonstration. -/
def Counted (seeds : SeedSource) (config : Config) (block : Nat → ChainSnapshot)
    (engine : Engine) : Prop :=
  ∃ s, engine.audit = some s ∧
    s.stats = counts config jobs.length (jobs.filter (isAudited seeds config block))

theorem Counted.of_lane {seeds : SeedSource} {config : Config} {block : Nat → ChainSnapshot}
    {engine after : Engine} (h : Counted seeds config block engine)
    (hlane : after.lane .audit = engine.lane .audit) : Counted seeds config block after := by
  obtain ⟨s, hs, hcounts⟩ := h
  obtain ⟨haudit, -⟩ := Engine.Part.audit.inj (Engine.Lane.mk.inj hlane).1
  exact ⟨s, haudit.trans hs, hcounts⟩

/-- An engine after the jobs of a demonstration. -/
structure Ready (seeds : SeedSource) (config : Config) (block : Nat → ChainSnapshot)
    (engine : Engine) : Prop where
  tempered : Tempered config engine
  counted : Counted seeds config block engine
  settled : Settled config [] engine
  funded : Funded funds.units engine.collaborators.ledger

variable {seeds : SeedSource} {config : Config} (clock : Clock)

/-- The control steps have room with any gains, and the lower bound is a temperature for a role. -/
theorem exists_tempered (hvalid : config.validate = .ok ()) {start : Engine}
    {collaborators : Collaborators} (hstart : start.StartsFrom config collaborators true true) :
    ∃ steered,
      perform clock.override
          (.temperature config.temperature.authority
            (.setOverride .validator config.temperature.minBound.toInt))
          (makeSteps clock.step config.temperature.authority start steps) =
        .ok (steered, .temperature none) ∧
      Tempered config steered ∧
      ∀ subsystem, Subsystem.temperature ≠ subsystem →
        steered.lane subsystem = start.lane subsystem := by
  obtain ⟨htemperature, -, -, -⟩ := Config.validate_eq_ok.mp hvalid
  obtain ⟨hauthority, hbounds⟩ := Config.TemperatureSection.validate_eq_ok.mp htemperature
  have hmodest := modest_controller (Config.TemperatureSection.isBounded_iff.mpr hbounds)
    config.temperature.authority 20
  have hsmall : ∀ signals ∈ steps, signals.Within 20 := by decide
  obtain ⟨last, hfollow, hlast⟩ := hmodest.follow hsmall (by decide)
  obtain ⟨hkept, hkeptBounds, hkeptOverrides⟩ := Controller.keeps_of_follow hfollow
  have hheld : (config.controller config.temperature.authority).authority.isHeldBy
      config.temperature.authority = true := by
    simp [Authority.isHeldBy, Config.controller, hauthority]
  have hsteered : Steered (config.controller config.temperature.authority) 0 start :=
    ⟨hstart.temperature, by rw [hstart.metrics]; rfl⟩
  have hmin : 0 < config.temperature.minBound.toInt ∧
      last.bounds.Admits config.temperature.minBound.toInt := by
    rw [hkeptBounds]
    exact ⟨hbounds.1.1, Int.le_refl _, Int.le_of_lt hbounds.1.2⟩
  obtain ⟨steered, hperform, hafter⟩ :=
    (hsteered.makeSteps clock.step hheld hfollow).override clock.override (by rwa [hkept])
      .validator hmin
  have hadmits := hlast.temperature
  rw [hkeptBounds] at hadmits
  refine ⟨steered, hperform, ⟨last, hfollow, hadmits, ?_⟩, ?_⟩
  · rw [hkeptOverrides, Nat.zero_add] at hafter
    exact hafter
  · intro subsystem hother
    exact (lane_of_perform clock.override hperform hother).trans
      (lane_makeSteps_other clock.step config.temperature.authority start steps hother)

section Start

variable {c : Collaborators} {start tempered : Engine}
  (hsupplied : Supplied seeds config c) (hstart : start.StartsFrom config c true true)
  (hlanes : ∀ subsystem, Subsystem.temperature ≠ subsystem →
    tempered.lane subsystem = start.lane subsystem)
include hsupplied hstart hlanes

/-- Before the first job nothing is audited, and nobody is employed. -/
theorem reviewed_start {roster : Audit.Roster}
    (hscheduler : start.audit = some (config.scheduler roster true)) :
    Reviewed seeds config clock.block roster tempered [] tempered := by
  refine ⟨⟨Table.empty, fun _ _ => rfl, ?_⟩, ⟨_, List.forall_mem_nil _, rfl, rfl⟩⟩
  refine Audits.of_lane ⟨?_, ?_, ?_⟩ (hlanes .audit nofun)
  · rw [hscheduler, List.filter_nil, List.length_nil, counts_nothing]
    rfl
  all_goals rw [hstart.collaborators]
  · exact hsupplied.online
  · exact hsupplied.seeds

/-- Once the jobs are done there may be disputes, and nothing has been paid. -/
theorem settled_start {engine : Engine} {registry : JobRegistry} (hemploys : Employs registry jobs)
    (hbeside : Beside tempered registry engine) :
    Settled config [] engine ∧ Funded funds.units engine.collaborators.ledger := by
  obtain ⟨hresolver, hledger, hregistry, hpool⟩ := Engine.Part.disputes.inj hbeside.disputes
  obtain ⟨hresolver', hledger', -, hpool'⟩ :=
    Engine.Part.disputes.inj (Engine.Lane.mk.inj (hlanes .disputes nofun)).1
  rw [hstart.collaborators] at hledger' hpool'
  refine ⟨⟨?_, ?_, ?_⟩, ?_⟩
  · rw [hresolver, hresolver', hstart.disputes]
    rfl
  · rw [hpool, hpool', hsupplied.pool]
  · rw [hregistry]
    exact hemploys
  · rw [hledger, hledger']
    exact hsupplied.funded

/-- The jobs are done whatever the seeds are, once there is an auditor. -/
theorem exists_reviewed (hvalid : config.validate = .ok ()) {auditor : Address}
    (hauditor : auditor ∈ config.audit.auditors) (htempered : Tempered config tempered) :
    ∃ engine, jobs.foldlM (runJob clock config auditor) tempered = .ok engine ∧
      Ready seeds config clock.block engine := by
  obtain ⟨-, haudits, -, -⟩ := Config.validate_eq_ok.mp hvalid
  obtain ⟨-, hnotifier, -, -⟩ := Config.AuditSection.validate_eq_ok.mp haudits
  obtain ⟨roster, -, hroster, hscheduler⟩ := hstart.audit
  obtain ⟨engine, hrun, hafter⟩ :=
    (reviewed_start clock hsupplied hstart hlanes hscheduler).runJobs clock hnotifier
      ((hroster auditor).mpr hauditor) (show (jobs.map JobId.ofNat).Nodup by decide)
  obtain ⟨records, -, hcounted⟩ := hafter.audits
  obtain ⟨registry, hemploys, hbeside⟩ := hafter.beside
  obtain ⟨hsettled, hfunded⟩ := settled_start hsupplied hstart hlanes hemploys hbeside
  exact ⟨engine, hrun, htempered.of_lane hbeside.temperature, ⟨_, hcounted.scheduler, rfl⟩,
    hsettled, hfunded⟩

end Start

variable (seeds) in
/-- Until the jobs are done nothing can stop a demonstration of a valid configuration that names an
auditor. -/
theorem exists_ready (hvalid : config.validate = .ok ()) {auditor : Address}
    {others : List Address} (hauditors : config.audit.auditors = auditor :: others) :
    ∃ engine, Ready seeds config clock.block engine ∧
      run seeds config clock =
        (runDispute clock config engine 1 false >>= fun engine =>
          runDispute clock config engine 2 true) := by
  obtain ⟨c, hcollaborators, hsupplied⟩ := exists_collaborators seeds config (clock.block 0)
  obtain ⟨start, hbuild⟩ := Engine.exists_build hvalid c true true
  have hstart := Engine.startsFrom_of_build hbuild
  obtain ⟨tempered, hoverride, htempered, hlanes⟩ := exists_tempered clock hvalid hstart
  have hauditor : auditor ∈ config.audit.auditors := hauditors ▸ List.mem_cons_self
  obtain ⟨engine, hjobs, hready⟩ :=
    exists_reviewed clock hsupplied hstart hlanes hvalid hauditor htempered
  refine ⟨engine, hready, ?_⟩
  simp only [run, hcollaborators, hbuild, Operation.mapError_ok, hoverride, hauditors, hjobs,
    bind, Except.bind]

theorem run_of_invalid {invalid : Config.Invalid} (h : config.validate = .error invalid) :
    run seeds config clock = .error (.build (.invalid invalid)) := by
  obtain ⟨c, hcollaborators, -⟩ := exists_collaborators seeds config (clock.block 0)
  have hbuild : Engine.build config c true true = .error (.invalid invalid) :=
    Engine.build_eq_error.mpr ⟨invalid, h, rfl⟩
  simp only [run, hcollaborators, hbuild, Operation.mapError_ok, Operation.mapError_error, bind,
    Except.bind]

theorem run_of_no_auditor (hvalid : config.validate = .ok ())
    (h : config.audit.auditors = []) :
    run seeds config clock = .error .noAuditor := by
  obtain ⟨c, hcollaborators, hsupplied⟩ := exists_collaborators seeds config (clock.block 0)
  obtain ⟨start, hbuild⟩ := Engine.exists_build hvalid c true true
  obtain ⟨tempered, hoverride, -, -⟩ :=
    exists_tempered clock hvalid (Engine.startsFrom_of_build hbuild)
  simp only [run, hcollaborators, hbuild, Operation.mapError_ok, hoverride, h, bind, Except.bind]
  rfl

/-! ## What is shown at the end -/

/-- What the counts of audits say at the end of a demonstration. -/
structure Reviews (config : Config) (stats : Stats) : Prop where
  pending : stats.pending = 0
  completed : stats.completed = stats.scheduled
  certain : config.audit.probability = 10000 →
    stats.scheduled = 3 ∧ stats.passed = 2 ∧ stats.failed = 1 ∧
      stats.penaltiesApplied = if 0 < config.audit.penalty.units then 1 else 0
  never : config.audit.probability = 0 → stats = Stats.zero

theorem reviews_counts (seeds : SeedSource) (config : Config) (block : Nat → ChainSnapshot) :
    Reviews config
      (counts config jobs.length (jobs.filter (isAudited seeds config block))) := by
  refine ⟨rfl, rfl, fun hprobability => ?_, fun hprobability => ?_⟩
  · have hall : jobs.filter (isAudited seeds config block) = jobs :=
      List.filter_eq_self.mpr fun job _ => isAudited_certainty hprobability seeds block job
    rw [hall]
    refine ⟨rfl, rfl, rfl, ?_⟩
    change (if config.audit.penalty.isZero then 0 else 1) = _
    by_cases hfree : config.audit.penalty.units = 0
    · simp [Amount.isZero, hfree]
    · simp [Amount.isZero, hfree, Nat.pos_of_ne_zero hfree]
  · have hnone : jobs.filter (isAudited seeds config block) = [] :=
      List.filter_eq_nil_iff.mpr fun job _ => by
        rw [isAudited_zero hprobability]
        exact Bool.false_ne_true
    rw [hnone]
    simp [counts, hprobability, Stats.zero]

/-- What a demonstration that completes shows. -/
structure Shows (seeds : SeedSource) (config : Config) (block : Nat → ChainSnapshot)
    (engine : Engine) : Prop where
  temperature : ∃ last,
    (config.controller config.temperature.authority).follow steps = .ok last ∧
    (Temperature.Bounds.mk config.temperature.minBound.toInt
      config.temperature.maxBound.toInt).Admits last.temperature ∧
    engine.temperature = some
      { last with
        overrides := Table.empty.insert .validator config.temperature.minBound.toInt }
  ticks : engine.metrics.map (fun m => (m.ticks, m.rejectedTicks)) = some (3, 0)
  audits : ∃ s, engine.audit = some s ∧
    s.stats = counts config 3 (jobs.filter (isAudited seeds config block)) ∧
    Reviews config s.stats
  disputes : engine.disputes.map Dispute.Resolver.stats = some ⟨2, 1, 1, 0, Amount.zero⟩

theorem conditions_of_run {engine : Engine} (h : run seeds config clock = .ok engine) :
    config.validate = .ok () ∧ config.audit.auditors ≠ [] ∧
      config.disputes.minJurySize.toNat ≤ 8 ∧ config.disputes.appealBond.units ≤ 100 := by
  cases hvalid : config.validate with
  | error invalid =>
      rw [run_of_invalid clock hvalid] at h
      cases h
  | ok passed =>
      cases hauditors : config.audit.auditors with
      | nil =>
          rw [run_of_no_auditor clock hvalid hauditors] at h
          cases h
      | cons auditor others =>
          obtain ⟨ready, hready, hrun⟩ := exists_ready seeds clock hvalid hauditors
          rw [hrun] at h
          obtain ⟨middle, hfirst, -⟩ := Config.bind_eq_ok_iff.mp h
          obtain ⟨hjury, hbond⟩ := hready.settled.of_runDispute clock hfirst
          exact ⟨rfl, List.cons_ne_nil auditor others, hjury,
            Nat.le_trans hbond (hready.funded.le_most appellant)⟩

variable (seeds) in
theorem exists_run (hvalid : config.validate = .ok ()) (hauditors : config.audit.auditors ≠ [])
    (hjury : config.disputes.minJurySize.toNat ≤ 8)
    (hbond : config.disputes.appealBond.units ≤ 100) :
    ∃ engine, run seeds config clock = .ok engine ∧ Shows seeds config clock.block engine := by
  obtain ⟨auditor, others, hfirst⟩ := List.exists_cons_of_ne_nil hauditors
  obtain ⟨ready, hready, hrun⟩ := exists_ready seeds clock hvalid hfirst
  obtain ⟨-, -, hdisputes, -⟩ := Config.validate_eq_ok.mp hvalid
  obtain ⟨-, hjudge, -⟩ := Config.DisputeSection.validate_eq_ok.mp hdisputes
  -- The bond is paid four times, and all accounts have room for what that adds to them.
  have hroom : funds.units + 2 * config.disputes.appealBond.units +
      2 * config.disputes.appealBond.units ≤ maxWord64 := by
    have hfunds : funds.units = 100 := rfl
    simp only [maxWord64]
    omega
  obtain ⟨middle, hfirst, hsettled, hfunded, hlanes⟩ :=
    hready.settled.runDispute clock hready.funded hjudge (show 1 ∈ jobs by decide) hjury hbond
      (Nat.le_of_add_right_le hroom) false
  obtain ⟨last, hsecond, hended, -, hlanes'⟩ :=
    hsettled.runDispute clock (hfunded rfl) hjudge (show 2 ∈ jobs by decide) hjury hbond hroom true
  have hlane : ∀ subsystem, Subsystem.disputes ≠ subsystem →
      last.lane subsystem = ready.lane subsystem :=
    fun subsystem hother => (hlanes' subsystem hother).trans (hlanes subsystem hother)
  obtain ⟨controller, hfollow, hadmits, hsteered⟩ :=
    hready.tempered.of_lane (hlane .temperature nofun)
  obtain ⟨s, hs, hcounts⟩ := hready.counted.of_lane (hlane .audit nofun)
  refine ⟨last, ?_, ?_⟩
  · rw [hrun, hfirst]
    exact hsecond
  · exact
      { temperature := ⟨controller, hfollow, hadmits, hsteered.controller⟩
        ticks := hsteered.tickCounts
        audits := ⟨s, hs, hcounts, hcounts ▸ reviews_counts seeds config clock.block⟩
        disputes := by
          rw [hended.resolver]
          rfl }

/-- A demonstration completes exactly when the validation of its configuration passes, it names an
auditor, its juries have at most as many members as there are validators, and its bond is at most
what the appellant owns; then all control steps were made, all audits are done and both disputes are
settled. -/
theorem run_completes (seeds : SeedSource) (config : Config) (clock : Clock) :
    ((∃ engine, run seeds config clock = .ok engine) ↔
      config.validate = .ok () ∧ config.audit.auditors ≠ [] ∧
        config.disputes.minJurySize.toNat ≤ 8 ∧ config.disputes.appealBond.units ≤ 100) ∧
    ∀ engine, run seeds config clock = .ok engine → Shows seeds config clock.block engine := by
  refine ⟨⟨?_, ?_⟩, ?_⟩
  · rintro ⟨engine, h⟩
    exact conditions_of_run clock h
  · rintro ⟨hvalid, hauditors, hjury, hbond⟩
    obtain ⟨engine, h, -⟩ := exists_run seeds clock hvalid hauditors hjury hbond
    exact ⟨engine, h⟩
  · intro engine h
    obtain ⟨hvalid, hauditors, hjury, hbond⟩ := conditions_of_run clock h
    obtain ⟨other, hother, hshows⟩ := exists_run seeds clock hvalid hauditors hjury hbond
    rw [h] at hother
    cases hother
    exact hshows

/-- The appellant may have every role, so that its bonds are held by itself and judged by itself. -/
theorem run_completes_alone :
    let temperature := { Demonstration.config.temperature with authority := appellant }
    let audit :=
      { Demonstration.config.audit with
        authority := appellant, notifier := appellant, auditors := [appellant] }
    let disputes : Config.DisputeSection := ⟨appellant, funds, 8, appellant, appellant⟩
    let config := { Demonstration.config with temperature, audit, disputes }
    let seeds := Audit.constantSeed Word.zero
    let clock : Clock := .still default default
    config.validate = .ok () ∧ ∃ engine, run seeds config clock = .ok engine ∧
      engine.audit.map Audit.Scheduler.stats = some ⟨3, 3, 0, 3, 2, 1, 1, 0⟩ ∧
      engine.disputes.map Dispute.Resolver.stats = some ⟨2, 1, 1, 0, Amount.zero⟩ := by
  intro temperature audit disputes config seeds clock
  have hvalid : config.validate = .ok () := by decide
  obtain ⟨hcompletes, hshows⟩ := run_completes seeds config clock
  obtain ⟨engine, hrun⟩ :=
    hcompletes.mpr ⟨hvalid, List.cons_ne_nil _ _, by decide, by decide⟩
  obtain ⟨s, hs, hcounts, -⟩ := (hshows engine hrun).audits
  refine ⟨hvalid, engine, hrun, ?_, (hshows engine hrun).disputes⟩
  rw [hs, Option.map_some, hcounts]
  decide

end Integrity.Simulation.Demonstration
