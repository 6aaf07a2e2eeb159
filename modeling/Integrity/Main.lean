import Integrity.CommandLine.Run
import Std.Time.DateTime.Timestamp

/-!
# The program
-/

namespace Integrity.CommandLine

/-- Why a file of the machine cannot be opened. -/
def fileError : IO.Error → Files.Error
  | .noFileOrDirectory .. => .notFound
  | .inappropriateType _ 20 _ => .notDirectory
  | .inappropriateType _ 21 _ => .isDirectory
  | .resourceExhausted _ code description => .other description code.toNat
  | .permissionDenied _ code description => .other description code.toNat
  | .invalidArgument _ 36 _ => .nameTooLong
  | .invalidArgument _ code description => .other description code.toNat
  | error => .other error.toString 0

/-- The machine itself. -/
def machine : Host IO where
  holds path := do
    match ← (IO.FS.Handle.mk path .read).toBaseIO with
    | .ok _ => return true
    | .error (.noFileOrDirectory ..) | .error (.inappropriateType ..) => return false
    | .error _ => return true
  read path := do
    match ← (IO.FS.readFile path).toBaseIO with
    | .ok text => return some text
    | .error _ => return none
  write path text := do
    match ← (IO.FS.writeFile path text).toBaseIO with
    | .ok () => return true
    | .error _ => return false
  openLog path := do
    if path.contains '\x00' then return .error .zeroCharacter
    match ← (IO.FS.Handle.mk path .append).toBaseIO with
    | .ok _ => return .ok ()
    | .error cause => return .error (fileError cause)
  now := do
    let timestamp ← Std.Time.Timestamp.now
    let nanos := timestamp.toNanosecondsSinceUnixEpoch.val
    return (nanos.fdiv 1000000000, (nanos.fmod 1000000000).toNat)

/-- The settings of the log that the environment prescribes. -/
def environment : IO Config.Overrides := do
  return {
    level := ← IO.getEnv "AICE_LOG_LEVEL"
    format := ← IO.getEnv "AICE_LOG_FORMAT"
    file := ← IO.getEnv "AICE_LOG_FILE" }

end Integrity.CommandLine

open Integrity.CommandLine in
/-- Runs the program once. -/
def main (arguments : List String) : IO UInt32 := do
  let outcome ← run machine (← environment) arguments
  IO.print outcome.printed
  IO.eprint outcome.reported
  return outcome.code.toUInt32
