import Integrity.Audit.Scheduler
import Integrity.Dispute.Resolver
import Integrity.Temperature.Controller

/-!
# Configurations

What an engine starts from, and how the program logs. Numbers of the temperature are signed and fit
64 bits. A configuration is checked as a whole before an engine is built from it.
-/

namespace Integrity.Config

/-- What the temperature controller starts from. -/
structure TemperatureSection where
  authority : Address
  initial : Int64
  minBound : Int64
  maxBound : Int64
  kp : Int64
  ki : Int64
  kd : Int64
deriving DecidableEq

/-- What the audit scheduler starts from. -/
structure AuditSection where
  authority : Address
  notifier : Address
  probability : UInt16
  penalty : Amount
  auditors : List Address
  policy : Audit.ReschedulePolicy
  blockInterval : UInt64
deriving DecidableEq

/-- What the dispute resolver starts from. -/
structure DisputeSection where
  authority : Address
  appealBond : Amount
  minJurySize : UInt64
  judge : Address
  escrowAccount : Address
deriving DecidableEq

/-- How the program logs. -/
structure LoggingSection where
  level : String
  format : String
  file : Option String
  moduleFilters : Table String String
deriving DecidableEq

end Config

/-- A configuration. -/
structure Config where
  temperature : Config.TemperatureSection
  audit : Config.AuditSection
  disputes : Config.DisputeSection
  logging : Config.LoggingSection
deriving DecidableEq

namespace Config

/-- The temperature when nothing is said about it. -/
def TemperatureSection.default : TemperatureSection :=
  ⟨Address.null, 100, 1, 1000, 1, 0, 0⟩

/-- The seconds between blocks when nothing is said about them. -/
def defaultBlockInterval : UInt64 :=
  12

/-- The audits when nothing is said about them. -/
def AuditSection.default : AuditSection :=
  ⟨Address.null, Address.null, 500, Amount.zero, [], .lastWriteWins, defaultBlockInterval⟩

/-- The disputes when nothing is said about them. -/
def DisputeSection.default : DisputeSection :=
  ⟨Address.null, Amount.ofNat 100, 3, Address.null, Address.null⟩

/-- The logging when nothing is said about it. -/
def LoggingSection.default : LoggingSection :=
  ⟨"info", "pretty", none, Table.empty⟩

/-- The configuration when nothing is said. -/
def default : Config :=
  ⟨.default, .default, .default, .default⟩

instance : Inhabited Config :=
  ⟨default⟩

/-- The addresses that have to be given. -/
inductive Party where
  | temperatureAuthority
  | auditAuthority
  | notifier
  | disputeAuthority
  | judge
  | escrowAccount
deriving DecidableEq, Repr

/-- Where an address is given. -/
def Party.key : Party → String
  | temperatureAuthority => "temperature.authority"
  | auditAuthority => "audit.authority"
  | notifier => "audit.notifier"
  | disputeAuthority => "disputes.authority"
  | judge => "disputes.resolution_authority"
  | escrowAccount => "disputes.escrow_account"

/-- Why a configuration is not valid. -/
inductive Invalid where
  | unset (party : Party)
  | bounds (min max : Int64)
  | initialTemperature (value min max : Int64)
  | probability (value : UInt16)
  | blockInterval
  | logFormat (format : String)
deriving DecidableEq

/-- The ways in which a log can be written. -/
def logFormats : List String :=
  ["pretty", "compact", "json"]

/-- What is said about a configuration that is not valid. -/
def Invalid.message : Invalid → String
  | unset party => s!"{party.key} must be set"
  | bounds min max =>
    s!"Invalid temperature bounds [{min.toInt}, {max.toInt}]: need 0 < min < max"
  | initialTemperature value min max =>
    s!"Initial temperature {value.toInt} outside bounds [{min.toInt}, {max.toInt}]"
  | probability value =>
    s!"audit.probability_bps = {value.toNat} exceeds {Audit.certainty}"
  | blockInterval => "audit.block_interval_secs must be > 0"
  | logFormat format =>
    let formats := ", ".intercalate logFormats
    s!"Invalid log format \x27{format}\x27. Valid options: {formats}"

/-- An address that has to be given. -/
def ensureSet (party : Party) (address : Address) : Except Invalid Unit :=
  if address.isNull then .error (.unset party) else .ok ()

/-- Checks the temperature. -/
def TemperatureSection.validate (t : TemperatureSection) : Except Invalid Unit := do
  ensureSet .temperatureAuthority t.authority
  if t.minBound ≤ 0 ∨ t.maxBound ≤ t.minBound then throw (.bounds t.minBound t.maxBound)
  if t.initial < t.minBound ∨ t.maxBound < t.initial then
    throw (.initialTemperature t.initial t.minBound t.maxBound)

/-- Checks the audits. -/
def AuditSection.validate (a : AuditSection) : Except Invalid Unit := do
  ensureSet .auditAuthority a.authority
  ensureSet .notifier a.notifier
  if Audit.certainty < a.probability.toNat then throw (.probability a.probability)
  if a.blockInterval = 0 then throw .blockInterval

/-- Checks the disputes. -/
def DisputeSection.validate (d : DisputeSection) : Except Invalid Unit := do
  ensureSet .disputeAuthority d.authority
  ensureSet .judge d.judge
  ensureSet .escrowAccount d.escrowAccount

/-- Checks the logging. -/
def LoggingSection.validate (l : LoggingSection) : Except Invalid Unit :=
  if logFormats.contains l.format then .ok () else .error (.logFormat l.format)

/-- Checks a configuration, section by section. -/
def validate (c : Config) : Except Invalid Unit := do
  c.temperature.validate
  c.audit.validate
  c.disputes.validate
  c.logging.validate

/-- What the temperature controller starts from. -/
def temperatureSettings (c : Config) : Temperature.Settings where
  initial := c.temperature.initial.toInt
  min := c.temperature.minBound.toInt
  max := c.temperature.maxBound.toInt
  gains := ⟨c.temperature.kp.toInt, c.temperature.ki.toInt, c.temperature.kd.toInt⟩

/-- What the audit scheduler starts from. -/
def auditSettings (c : Config) : Audit.Settings where
  notifier := c.audit.notifier
  probability := c.audit.probability
  penalty := c.audit.penalty
  auditors := c.audit.auditors
  policy := c.audit.policy

/-- What the dispute resolver starts from. -/
def disputeSettings (c : Config) : Dispute.Settings where
  appealBond := c.disputes.appealBond
  minJurySize := c.disputes.minJurySize.toNat
  judge := c.disputes.judge
  escrowAccount := c.disputes.escrowAccount

/-- Settings of the log that the surroundings of the program prescribe. -/
structure Overrides where
  level : Option String
  format : Option String
  file : Option String
deriving DecidableEq, Inhabited

/-- The configuration under prescribed settings of the log. -/
def override (c : Config) (overrides : Overrides) : Config :=
  { c with
    logging :=
      { c.logging with
        level := overrides.level.getD c.logging.level
        format := overrides.format.getD c.logging.format
        file := overrides.file <|> c.logging.file } }

end Config

end Integrity
