import Integrity.Config.Basic
import Integrity.Engine.Basic

/-!
# Building an engine

An engine is built from a configuration that has been checked, with all three subsystems. Juries
come from the validator pool and employers from the job registry.
-/

namespace Integrity.Engine

/-- Why an engine was not built. -/
inductive BuildError where
  | invalid (cause : Config.Invalid)
  | temperature (cause : Temperature.Error)
  | audit (cause : Audit.Error)
deriving DecidableEq

/-- What is said about an engine that was not built. -/
def BuildError.trail : BuildError → Trail
  | invalid cause => Trail.ofFailure cause.message
  | temperature cause =>
    (Trail.ofFailure cause.message).causing "Failed to create temperature controller"
  | audit cause => cause.trail.causing "Failed to create audit scheduler"

/-- The metrics of an engine at its start. -/
def startMetrics (config : Config) : Metrics :=
  Metrics.zero.read (.temperature config.temperature.initial.toInt)

/-- Builds an engine. -/
def build (config : Config) (collaborators : Collaborators) (withSink withMetrics : Bool) :
    Except BuildError Engine := do
  config.validate.mapError .invalid
  let temperature ←
    (Temperature.Controller.make config.temperature.authority config.temperatureSettings).mapError
      .temperature
  let audit ←
    (Audit.Scheduler.make config.audit.authority config.auditSettings withSink).mapError .audit
  let disputes :=
    Dispute.Resolver.make config.disputes.authority config.disputeSettings .pool .registry
  return {
    temperature := some temperature
    audit := some audit
    disputes := some disputes
    log := EventLog.empty
    metrics := if withMetrics then some (startMetrics config) else none
    collaborators }

end Integrity.Engine
