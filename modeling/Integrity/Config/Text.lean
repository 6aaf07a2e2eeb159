import Integrity.Config.Decode
import Integrity.Toml.Document
import Integrity.Toml.Writer

/-!
# Configurations as text

A configuration is a TOML document with a table for each section. It can be written unless one of
its numbers does not fit 64 bits with a sign, the numbers of TOML.
-/

namespace Integrity.Config

/-- Why a text is no configuration. -/
inductive TextError where
  | malformed
  | data (cause : DecodeError)

/-- Reads a configuration. -/
def ofText (text : List Char) : Except TextError Config :=
  match Toml.ofText text with
  | none => .error .malformed
  | some datum => (ofDatum .toml datum).mapError .data

/-- Why a configuration cannot be written. -/
inductive RenderError where
  | outOfRange
deriving DecidableEq, Repr

/-- What is said about a configuration that cannot be written. -/
def RenderError.message : RenderError → String
  | outOfRange => "out-of-range value for u64 type"

/-- A number without a sign, which has to fit. -/
def renderWord (n : Nat) : Except RenderError (List Char) :=
  if (n : Int) ≤ maxInt64 then .ok (Numeral.ofNat n) else .error .outOfRange

/-- A text. -/
def renderText (text : String) : List Char :=
  Toml.writeText text.toList

/-- An address. -/
def renderAddress (address : Address) : List Char :=
  Toml.writeText address.toText

/-- The assignments of a table. -/
def renderEntries (entries : List (String × List Char)) : List Char :=
  entries.flatMap fun (key, value) => Toml.writeAssignment key value

/-- The temperature. -/
def TemperatureSection.render (t : TemperatureSection) : List Char :=
  renderEntries [
    ("authority", renderAddress t.authority),
    ("initial_temperature", Numeral.ofInt t.initial.toInt),
    ("min_bound", Numeral.ofInt t.minBound.toInt),
    ("max_bound", Numeral.ofInt t.maxBound.toInt),
    ("kp", Numeral.ofInt t.kp.toInt),
    ("ki", Numeral.ofInt t.ki.toInt),
    ("kd", Numeral.ofInt t.kd.toInt)]

/-- The audits. -/
def AuditSection.render (a : AuditSection) : Except RenderError (List Char) := do
  let penalty ← renderWord a.penalty.units
  let blockInterval ← renderWord a.blockInterval.toNat
  return renderEntries [
    ("authority", renderAddress a.authority),
    ("notifier", renderAddress a.notifier),
    ("probability_bps", Numeral.ofNat a.probability.toNat),
    ("penalty_amount", penalty),
    ("auditors", Toml.writeArray (a.auditors.map renderAddress)),
    ("reschedule_policy", renderText a.policy.name),
    ("block_interval_secs", blockInterval)]

/-- The disputes. -/
def DisputeSection.render (d : DisputeSection) : Except RenderError (List Char) := do
  let appealBond ← renderWord d.appealBond.units
  let minJurySize ← renderWord d.minJurySize.toNat
  return renderEntries [
    ("authority", renderAddress d.authority),
    ("appeal_bond", appealBond),
    ("min_jury_size", minJurySize),
    ("resolution_authority", renderAddress d.judge),
    ("escrow_account", renderAddress d.escrowAccount)]

/-- The logging, up to the levels of single modules. -/
def LoggingSection.render (l : LoggingSection) : List Char :=
  renderEntries <|
    [("level", renderText l.level), ("format", renderText l.format)]
      ++ (l.file.map fun file => ("file_output", renderText file)).toList

/-- Writes a configuration. -/
def render (c : Config) : Except RenderError (List Char) := do
  let audit ← c.audit.render
  let disputes ← c.disputes.render
  return Toml.writeHeader ["temperature"] ++ c.temperature.render ++ ['\n']
    ++ Toml.writeHeader ["audit"] ++ audit ++ ['\n']
    ++ Toml.writeHeader ["disputes"] ++ disputes ++ ['\n']
    ++ Toml.writeHeader ["logging"] ++ c.logging.render ++ ['\n']
    ++ Toml.writeHeader ["logging", "module_filters"]
    ++ renderEntries (c.logging.moduleFilters.map renderText).entries

end Integrity.Config
