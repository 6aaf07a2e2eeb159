import Integrity.CommandLine.Usage
import Integrity.Text.Numeral
import Integrity.Width

/-!
# Invocations

An invocation of the program names one of its commands. Switches in front of the name belong to the
program, and those after it to the command. No switch with a value may be given twice.
-/

namespace Integrity.CommandLine

/-- What the program is asked to do. -/
inductive Command where
  | checkConfig
  | simulateTicks (ticks : String)
  | sampleAudits (probability : UInt16) (trials : Nat) (seed : UInt64)
  | demo (output : Option String) (withMetrics : Bool)
deriving DecidableEq, Repr

/-- A way to call the program. -/
structure Invocation where
  config : Option String
  command : Command
deriving DecidableEq, Repr

/-- What arguments mean. -/
inductive Meaning (α : Type) where
  | help (usage : Usage)
  | refused
  | accepted (value : α)

/-! ## Values -/

/-- A value for what has none yet. -/
def once {α : Type} (current value : Option α) : Option (Option α) :=
  if current.isSome then none else value.map some

/-- The name of a file. -/
def fileOfText (text : String) : Option String :=
  if text = "" then none else some text

/-- A number without a sign, or after `+`, that is at most `most`. -/
def naturalOfText (most : Nat) (text : List Char) : Option Nat :=
  let digits := if text.head? = some '+' then text.tail else text
  if digits.isEmpty || !digits.all Char.isDigit || most < Numeral.value digits then none
  else some (Numeral.value digits)

/-- A probability: a number without a sign, or zero with one. -/
def probabilityOfText (text : List Char) : Option UInt16 :=
  let digits :=
    match text with
    | '-' :: digits => if digits.all (· == '0') then digits else text
    | _ => text
  (naturalOfText 65535 digits).map UInt16.ofNat

/-- A number of 64 bits. -/
def wordOfText (text : List Char) : Option Nat :=
  naturalOfText maxWord64 text

/-! ## The program -/

/-- The settings of the program. -/
structure Settings where
  config : Option String
deriving DecidableEq, Repr

/-- The switches of the program. Nothing is logged that repeating one could change. -/
def Settings.switches : List (Switch Settings) := [
  { letter := some 'c', name := "config", placeholder := some "FILE", isCounted := false
    purpose := "Configuration file path"
    apply := fun value s =>
      (once s.config (fileOfText value)).map fun config => { s with config } },
  { letter := some 'v', name := "verbose", placeholder := none, isCounted := true
    purpose := "Verbosity level (can be repeated)"
    apply := fun _ s => some s }]

/-! ## The commands -/

/-- The settings of a replay. -/
structure ReplaySettings where
  ticks : Option String
deriving DecidableEq, Repr

/-- The switches of a replay. -/
def ReplaySettings.switches : List (Switch ReplaySettings) := [
  { letter := some 't', name := "ticks", placeholder := some "TICKS", isCounted := false
    purpose := "JSON array of \x7b\"emission_error\", \"backlog_error\", \"sla_error\"\x7d"
    apply := fun value s => (once s.ticks (fileOfText value)).map fun ticks => { s with ticks } }]

/-- The settings of a sampling. -/
structure SamplingSettings where
  probability : Option UInt16
  trials : Option Nat
  seed : Option Nat
deriving DecidableEq, Repr

/-- The switches of a sampling. -/
def SamplingSettings.switches : List (Switch SamplingSettings) := [
  { letter := some 'b', name := "bps", placeholder := some "BPS", isCounted := false
    purpose := "Selection probability in basis points [default: 500]"
    apply := fun value s =>
      (once s.probability (probabilityOfText value.toList)).map fun probability =>
        { s with probability } },
  { letter := some 't', name := "trials", placeholder := some "TRIALS", isCounted := false
    purpose := "Number of simulated finalizations [default: 10000]"
    apply := fun value s => (once s.trials (wordOfText value.toList)).map fun trials =>
      { s with trials } },
  { letter := none, name := "seed", placeholder := some "SEED", isCounted := false
    purpose := "RNG seed for reproducible runs [default: 42]"
    apply := fun value s => (once s.seed (wordOfText value.toList)).map fun seed =>
      { s with seed } }]

/-- The settings of a demonstration. -/
structure DemoSettings where
  output : Option String
  withMetrics : Bool
deriving DecidableEq, Repr

/-- The switches of a demonstration. -/
def DemoSettings.switches : List (Switch DemoSettings) := [
  { letter := some 'o', name := "output", placeholder := some "OUTPUT", isCounted := false
    purpose := "Write the event log here instead of stdout"
    apply := fun value s => (once s.output (fileOfText value)).map fun output =>
      { s with output } },
  { letter := none, name := "metrics", placeholder := none, isCounted := false
    purpose := "Also print the prometheus exposition"
    apply := fun _ s => if s.withMetrics then none else some { s with withMetrics := true } }]

/-- Reads the arguments of a command. What its settings come to is told by `command`. -/
def readCommand {σ : Type} (usage : Usage) (switches : List (Switch σ)) (start : σ)
    (command : σ → Option Command) (arguments : List String) : Meaning Command :=
  match readSwitches switches start arguments with
  | .help => .help usage
  | .refused | .word .. => .refused
  | .ended settings => (command settings).elim .refused .accepted

/-- A command by its name. -/
structure Subcommand where
  name : String
  usage : Usage
  read : List String → Meaning Command

/-- The command that checks a configuration. -/
def Subcommand.checkConfig : Subcommand :=
  let usage : Usage := ⟨"Load and validate a configuration file", "check-config", [], []⟩
  ⟨"check-config", usage, readCommand usage [] () fun _ => some .checkConfig⟩

/-- The command that replays control steps. -/
def Subcommand.simulateTicks : Subcommand :=
  let usage : Usage :=
    ⟨"Replay KPI ticks from a JSON file through a temperature controller",
      "simulate-ticks --ticks <TICKS>", [], ReplaySettings.switches.map Switch.toForm⟩
  ⟨"simulate-ticks", usage,
    readCommand usage ReplaySettings.switches ⟨none⟩ fun s => s.ticks.map .simulateTicks⟩

/-- The command that samples selections. -/
def Subcommand.sampleAudits : Subcommand :=
  let usage : Usage :=
    ⟨"Measure the empirical audit selection rate", "sample-audits [OPTIONS]", [],
      SamplingSettings.switches.map Switch.toForm⟩
  ⟨"sample-audits", usage,
    readCommand usage SamplingSettings.switches ⟨none, none, none⟩ fun s =>
      some (.sampleAudits (s.probability.getD 500) (s.trials.getD 10000)
        (UInt64.ofNat (s.seed.getD 42)))⟩

/-- The command that runs the demonstration. -/
def Subcommand.demo : Subcommand :=
  let usage : Usage :=
    ⟨"Run all three subsystems end to end with in-memory collaborators", "demo [OPTIONS]", [],
      DemoSettings.switches.map Switch.toForm⟩
  ⟨"demo", usage,
    readCommand usage DemoSettings.switches ⟨none, false⟩ fun s =>
      some (.demo s.output s.withMetrics)⟩

/-- The commands. -/
def Subcommand.all : List Subcommand :=
  [checkConfig, simulateTicks, sampleAudits, demo]

/-- The command of a name. -/
def Subcommand.ofName? (name : String) : Option Subcommand :=
  all.find? fun subcommand => subcommand.name == name

/-- The name under which the usage texts of the commands are found. -/
def helpName : String :=
  "help"

/-- How the program is used. -/
def programUsage : Usage :=
  ⟨"AICE - Adaptive Incentive Control & Integrity Engine", "[OPTIONS] <COMMAND>",
    Subcommand.all.map (fun subcommand => (subcommand.name, subcommand.usage.purpose))
      ++ [(helpName, "Print this message or the help of the given subcommand(s)")],
    Settings.switches.map Switch.toForm⟩

/-- Reads the names after which a usage text is asked for. -/
def readHelp : List String → Meaning Invocation
  | [] => .help programUsage
  | [name] =>
    if name = helpName then .help programUsage
    else (Subcommand.ofName? name).elim .refused fun subcommand => .help subcommand.usage
  | _ => .refused

/-- Reads the arguments of the program. -/
def Invocation.ofArguments (arguments : List String) : Meaning Invocation :=
  match readSwitches Settings.switches ⟨none⟩ arguments with
  | .help => .help programUsage
  | .refused | .ended _ => .refused
  | .word settings name rest =>
    if name = helpName then readHelp rest
    else
      match Subcommand.ofName? name with
      | none => .refused
      | some subcommand =>
        match subcommand.read rest with
        | .help usage => .help usage
        | .refused => .refused
        | .accepted command => .accepted ⟨settings.config, command⟩

end Integrity.CommandLine
