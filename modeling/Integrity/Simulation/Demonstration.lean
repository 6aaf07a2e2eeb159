import Integrity.Engine.Build
import Integrity.Event.Writer
import Integrity.Simulation.Replay

/-!
# A demonstration

An engine with all three subsystems goes through a short run: three control steps, one override,
three jobs with their audits, and two disputes, one won by each side. The parties beside those of
the configuration are made up. Each action has its own moment, and each job is reported in the block
of its moment.
-/

namespace Integrity.Simulation

namespace Demonstration

/-- Who employs the agent. -/
def employer : Address :=
  Address.filled 0x10

/-- Who does the jobs. -/
def agent : Address :=
  Address.filled 0x11

/-- Who disputes the jobs. -/
def appellant : Address :=
  Address.filled 0x12

/-- The validators. -/
def validators : List Address :=
  (List.range 8).map fun n => Address.filled (UInt8.ofNat (0x20 + n))

/-- What the appellant owns. -/
def funds : Amount :=
  Amount.ofNat 100

/-- The signals of the control steps. -/
def steps : List Temperature.Signals :=
  [⟨10, 0, 0⟩, ⟨5, 5, 0⟩, ⟨-20, 0, 5⟩]

/-- The jobs. -/
def jobs : List Nat :=
  [1, 2, 3]

/-- A configuration with a party of its own for each role. -/
def config : Config where
  temperature :=
    { Config.TemperatureSection.default with
      authority := Address.filled 0x01, minBound := 50, maxBound := 150, ki := 1 }
  audit :=
    { Config.AuditSection.default with
      authority := Address.filled 0x02
      notifier := Address.filled 0x03
      probability := 10000
      penalty := Amount.ofNat 10
      auditors := [Address.filled 0x04] }
  disputes :=
    { Config.DisputeSection.default with
      authority := Address.filled 0x05
      appealBond := Amount.ofNat 5
      judge := Address.filled 0x06
      escrowAccount := Address.filled 0x07 }
  logging := .default

/-- Why a demonstration stopped. -/
inductive Error where
  | funding (cause : CollaboratorError)
  | build (cause : Engine.BuildError)
  | noAuditor
  | action (cause : Engine.Failure)
deriving DecidableEq

/-- What is said about an action that failed. -/
def failureTrail : Engine.Failure → Trail
  | .absent subsystem => Trail.ofFailure s!"Subsystem {subsystem.name} is absent"
  | .temperature cause => Trail.ofFailure cause.message
  | .audit cause => cause.trail
  | .dispute cause => cause.trail
  | .collaborator cause => Trail.ofFailure cause.message

/-- What is said about a demonstration that stopped. -/
def Error.trail : Error → Trail
  | funding cause => Trail.ofFailure cause.message
  | build cause => cause.trail
  | noAuditor => Trail.ofFailure "Demo needs at least one auditor"
  | action cause => failureTrail cause

/-- What the clocks show: the moment of each action, and the block in which a job is reported.
Control steps are numbered from zero, and the other actions go by their jobs. -/
structure Clock where
  step : Nat → Timestamp
  override : Timestamp
  report : Nat → Timestamp
  block : Nat → ChainSnapshot
  outcome : Nat → Timestamp
  raise : Nat → Timestamp
  resolve : Nat → Timestamp

/-- Clocks that stand still. -/
def Clock.still (now : Timestamp) (block : ChainSnapshot) : Clock where
  step _ := now
  override := now
  report _ := now
  block _ := block
  outcome _ := now
  raise _ := now
  resolve _ := now

/-- What the engine works with. -/
def collaborators (seeds : Audit.SeedSource) (config : Config) (block : ChainSnapshot) :
    Except CollaboratorError Collaborators := do
  return {
    ledger := ← Ledger.empty.credit appellant funds
    book := ReputationBook.empty.setScore agent 100
    registry := JobRegistry.empty
    pool := ⟨validators, max config.disputes.minJurySize.toNat 1⟩
    chain := block
    seeds }

/-- An action that must not fail. -/
def perform (now : Timestamp) (action : Engine.Action) (engine : Engine) :
    Except Error (Engine × Engine.Answer) :=
  match engine.act now action with
  | (engine, .ok answer) => .ok (engine, answer)
  | (_, .error cause) => .error (.action cause)

/-- Makes control steps, whether they are refused or not. -/
def makeSteps (moment : Nat → Timestamp) (caller : Address) (engine : Engine) :
    List Temperature.Signals → Engine
  | [] => engine
  | signals :: rest =>
    makeSteps (fun n => moment (n + 1)) caller
      (engine.act (moment 0) (.temperature caller (.tick signals))).1 rest

/-- Reports a finished job, and records the outcome of its audit if it has one. Only the second job
fails its audit. -/
def runJob (clock : Clock) (config : Config) (auditor : Address) (engine : Engine) (job : Nat) :
    Except Error Engine := do
  let id := JobId.ofNat job
  let (engine, _) ← perform (clock.report job) (.register id employer) engine
  let (engine, _) ← perform (clock.report job) (.moveChain (clock.block job)) engine
  let result : Digest := Word.filled (UInt8.ofNat job)
  let (engine, answer) ←
    perform (clock.report job) (.audit config.audit.notifier (.finalize id agent true result))
      engine
  match answer with
  | .audit (some _) =>
    let (engine, _) ←
      perform (clock.outcome job) (.audit auditor (.record id (job != 2) "demo review")) engine
    return engine
  | _ => return engine

/-- Opens a dispute and settles it. -/
def runDispute (clock : Clock) (config : Config) (engine : Engine) (job : Nat)
    (employerWins : Bool) : Except Error Engine := do
  let id := JobId.ofNat job
  let (engine, _) ←
    perform (clock.raise job) (.dispute appellant (.raise id config.disputes.appealBond)) engine
  let (engine, _) ←
    perform (clock.resolve job) (.dispute config.disputes.judge (.resolve id employerWins)) engine
  return engine

/-- Goes through the whole demonstration by some clocks, under a rule for seeds. The answer is the
engine at its end. -/
def run (seeds : Audit.SeedSource) (config : Config) (clock : Clock) : Except Error Engine := do
  -- Each report moves the chain to its own block first, so nothing reads the block of the start.
  let collaborators ← (collaborators seeds config (clock.block 0)).mapError .funding
  let engine ← (Engine.build config collaborators true true).mapError .build
  let authority := config.temperature.authority
  let engine := makeSteps clock.step authority engine steps
  let (engine, _) ←
    perform clock.override
      (.temperature authority (.setOverride .validator config.temperature.minBound.toInt)) engine
  match config.audit.auditors with
  | [] => throw .noAuditor
  | auditor :: _ =>
    let engine ← jobs.foldlM (runJob clock config auditor) engine
    let engine ← runDispute clock config engine 1 false
    runDispute clock config engine 2 true

end Demonstration

/-- Runs the demonstration within one moment and one block. -/
def demonstrate (config : Config) (now : Timestamp) (block : ChainSnapshot) :
    Except Demonstration.Error Engine :=
  Demonstration.run Audit.blockSeed config (.still now block)

end Integrity.Simulation
