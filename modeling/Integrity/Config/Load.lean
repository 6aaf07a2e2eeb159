import Integrity.Config.Text

/-!
# Configurations from files

The text of a file is read as a configuration, the surroundings have their say on the log, and the
result is checked.
-/

namespace Integrity.Config

/-- Why a file gives no configuration. -/
inductive LoadError where
  | unreadable
  | unusable (cause : TextError)
  | invalid (cause : Invalid)

/-- What is said about a file that gives no configuration. -/
def LoadError.message (path : String) : LoadError → String
  | unreadable => s!"Failed to read config file: {path}"
  | unusable _ => s!"Failed to parse config file: {path}"
  | invalid cause => cause.message

/-- The configuration in the text of a file, if there is such a text. -/
def load (text : Option String) (overrides : Overrides) : Except LoadError Config := do
  match text with
  | none => throw .unreadable
  | some text =>
    let config ← (ofText text.toList).mapError .unusable
    let config := config.override overrides
    config.validate.mapError .invalid
    return config

end Integrity.Config
