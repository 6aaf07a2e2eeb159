import Integrity.CommandLine.Host
import Integrity.CommandLine.Invocation
import Integrity.Config.Load
import Integrity.Logging.Filter
import Integrity.Simulation.Demonstration
import Integrity.Simulation.Sampling
import Integrity.Simulation.Ticks

/-!
# Runs of the program

A run reads its arguments, opens the log, and does what it is asked to do. A log that cannot be
opened is reported and does not stop the run, unless a filter of it splits a character.
-/

namespace Integrity.CommandLine

/-- What a run shows. -/
structure Outcome where
  code : UInt8
  printed : String
  reported : String
deriving DecidableEq, Repr

namespace Outcome

/-- A run that prints something. -/
def success (printed : String) : Outcome :=
  ⟨0, printed, ""⟩

/-- A run that fails. -/
def failure (message : String) : Outcome :=
  ⟨1, "", s!"Error: {message}\n"⟩

/-- A run whose arguments are not accepted. -/
def refusal : Outcome :=
  ⟨2, "", programUsage.text⟩

/-- A run that breaks off. Its report begins with an empty line. -/
def breakdown : Outcome :=
  ⟨101, "", "\n"⟩

end Outcome

/-- The configuration of runs that are given none. -/
def defaultConfigPath : String :=
  "config/engine.toml"

variable {m : Type → Type} [Monad m]

/-- The file of the configuration, if there is one. -/
def configPath (host : Host m) (given : Option String) : m (Option String) := do
  match given with
  | some path => return some path
  | none => return if ← host.holds defaultConfigPath then some defaultConfigPath else none

/-- What a configuration says of the log; a file that gives none says nothing. -/
def loggingSettings (text : Option String) (overrides : Config.Overrides) :
    Config.LoggingSection :=
  let config :=
    match text.map fun text => Config.ofText text.toList with
    | some (.ok config) => config
    | _ => Config.default
  (config.override overrides).logging

/-- Why the log cannot be opened. -/
inductive Obstacle where
  | reported (message : String)
  | fatal
deriving DecidableEq, Repr

/-- Opens the log. The answer is why it cannot be opened. -/
def openLog (host : Host m) (settings : Config.LoggingSection) : m (Option Obstacle) := do
  match Logging.checkFilters settings.moduleFilters.entries with
  | .error .splitCharacter => return some .fatal
  | .error cause => return some (.reported cause.message)
  | .ok () =>
    match settings.file with
    | none => return none
    | some path =>
      match ← host.openLog path with
      | .ok () => return none
      | .error cause => return some (.reported cause.message)

/-- Checks a configuration. -/
def checkConfig (host : Host m) (overrides : Config.Overrides) (path : Option String) :
    m Outcome := do
  match path with
  | none =>
    return .failure s!"No configuration file given and {defaultConfigPath} not found"
  | some path =>
    match Config.load (← host.read path) overrides with
    | .error cause => return .failure (cause.message path)
    | .ok config =>
      let valid := s!"✅ {path} is valid\n"
      match config.render with
      | .ok text => return .success (valid ++ String.ofList text ++ "\n")
      | .error cause => return { Outcome.failure cause.message with printed := valid }

/-- A line about a control step. -/
def stepLine (outcome : Simulation.Replay.Outcome) : String :=
  let index := padded 4 (toString outcome.index)
  let temperature := padded 8 (Numeral.text outcome.temperature)
  let integral := Numeral.text outcome.integral
  let line := s!"#{index} T={temperature} integral="
  match outcome.rejected with
  | some cause => line ++ padded 10 integral ++ s!" REJECTED: {cause.message}\n"
  | none => line ++ integral ++ "\n"

/-- Replays the control steps of a file. -/
def simulateTicks (host : Host m) (overrides : Config.Overrides) (path : Option String)
    (ticks : String) : m Outcome := do
  let config : Except String Config ←
    match path with
    | none => pure (.ok Config.default)
    | some path =>
      pure ((Config.load (← host.read path) overrides).mapError fun cause => cause.message path)
  match config with
  | .error message => return .failure message
  | .ok config =>
    match ← host.read ticks with
    | none => return .failure s!"Failed to read ticks file: {ticks}"
    | some text =>
      match Temperature.Signals.listOfText text.toList with
      | .error _ => return .failure s!"Failed to parse ticks file: {ticks}"
      | .ok steps =>
        match Simulation.replay config steps with
        | .error cause => return .failure cause.trail.failure
        | .ok outcomes => return .success (String.join (outcomes.map stepLine))

/-- Samples the selections at a probability. -/
def sampleAudits (probability : UInt16) (trials : Nat) (seed : UInt64) : Outcome :=
  match Simulation.sample probability trials seed with
  | .error cause => .failure cause.message
  | .ok report =>
    let observed := String.ofList report.observed.tenths
    .success <|
      s!"selected {report.selected} of {report.trials} finalizations: "
        ++ s!"{observed} bps observed, {report.expected} bps configured\n"

/-- The line about an engine at the end of a demonstration. -/
def engineLine (engine : Engine) : String :=
  let temperature := Numeral.text (engine.temperature.elim 0 Temperature.Controller.temperature)
  let audit := engine.audit.map Audit.Scheduler.stats
  let scheduled := audit.elim 0 Audit.Stats.scheduled
  let failed := audit.elim 0 Audit.Stats.failed
  let disputes := engine.disputes.map Dispute.Resolver.stats
  let raised := disputes.elim 0 Dispute.Stats.raised
  let outstanding := disputes.elim 0 Dispute.Stats.outstanding
  s!"temperature={temperature} audits scheduled={scheduled} failed={failed} "
    ++ s!"disputes raised={raised} outstanding={outstanding}\n"

/-- Runs the demonstration. -/
def demo (host : Host m) (output : Option String) (withMetrics : Bool) : m Outcome := do
  let (seconds, nanos) ← host.now
  let config := Simulation.Demonstration.config
  let chain := Audit.ClockChain.ofSeconds config.audit.blockInterval.toNat
  let block := chain.snapshot (Int64.ofInt seconds)
  match Simulation.demonstrate config (Timestamp.ofUnix seconds nanos) block with
  | .error cause => return .failure cause.trail.failure
  | .ok engine =>
    let events := String.ofList engine.log.export
    let metrics := if withMetrics then engine.metrics.elim "" Metrics.text else ""
    match output with
    | none => return ⟨0, events ++ metrics, engineLine engine⟩
    | some path =>
      if ← host.write path events then return ⟨0, metrics, engineLine engine⟩
      else return .failure s!"Failed to write {path}"

/-- Does what is asked. -/
def perform (host : Host m) (overrides : Config.Overrides) (path : Option String) :
    Command → m Outcome
  | .checkConfig => checkConfig host overrides path
  | .simulateTicks ticks => simulateTicks host overrides path ticks
  | .sampleAudits probability trials seed => return sampleAudits probability trials seed
  | .demo output withMetrics => demo host output withMetrics

/-- Runs the program. -/
def run (host : Host m) (overrides : Config.Overrides) (arguments : List String) : m Outcome := do
  match Invocation.ofArguments arguments with
  | .help usage => return .success usage.text
  | .refused => return .refusal
  | .accepted invocation =>
    let path ← configPath host invocation.config
    let text : Option String ←
      match path with
      | some path => host.read path
      | none => pure none
    match ← openLog host (loggingSettings text overrides) with
    | some .fatal => return .breakdown
    | some (.reported message) =>
      let outcome ← perform host overrides path invocation.command
      let warning := s!"Failed to initialize logging: {message}\n"
      return { outcome with reported := warning ++ outcome.reported }
    | none => perform host overrides path invocation.command

end Integrity.CommandLine
