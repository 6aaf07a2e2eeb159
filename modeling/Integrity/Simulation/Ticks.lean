import Integrity.Json.Typed
import Integrity.Temperature.ControlLaw

/-!
# Lists of signals as text

The signals of a sequence of control steps are an array; each step is an object with the three
signals, or an array of them. Only the first signal has to be there; the others are zero when they
are not.
-/

namespace Integrity.Temperature.Signals

open Json (ReadError)

/-- The signals of a step that have been read. -/
structure Known where
  emission : Option Int
  backlog : Option Int
  serviceLevel : Option Int

/-- Reads a signal, unless it has been read. -/
def readOnce (known : Option Int) (text : List Char) : Except ReadError (Int × List Char) := do
  if known.isSome then throw .mismatched
  Json.readInteger (← Json.readColon text)

/-- Reads a member of a step, from after its key. -/
def readMember (fuel : Nat) (known : Known) (key : String) (text : List Char) :
    Except ReadError (Known × List Char) :=
  if key = "emission_error" then
    (readOnce known.emission text).map fun (n, rest) => ({ known with emission := some n }, rest)
  else if key = "backlog_error" then
    (readOnce known.backlog text).map fun (n, rest) => ({ known with backlog := some n }, rest)
  else if key = "sla_error" then
    (readOnce known.serviceLevel text).map fun (n, rest) =>
      ({ known with serviceLevel := some n }, rest)
  else (Json.skipMember fuel text).map fun rest => (known, rest)

/-- Reads the signals of a step that is an array, from after the first of them. -/
def readRest (emission : Int) (text : List Char) : Except ReadError (Signals × List Char) := do
  match ← Json.nextElement false text with
  | .done rest => return (⟨emission, 0, 0⟩, rest)
  | .more text =>
    let (backlog, text) ← Json.readInteger text
    match ← Json.nextElement false text with
    | .done rest => return (⟨emission, backlog, 0⟩, rest)
    | .more text =>
      let (serviceLevel, text) ← Json.readInteger text
      let rest ← Json.endArray text
      return (⟨emission, backlog, serviceLevel⟩, rest)

/-- Reads the signals of a step. -/
def read (fuel : Nat) (text : List Char) : Except ReadError (Signals × List Char) :=
  match Json.skipBlanks text with
  | [] => .error .truncated
  | c :: rest =>
    if c = '{' then do
      let (known, rest) ← Json.foldMembers (readMember fuel) fuel true ⟨none, none, none⟩ rest
      let emission ← Json.required known.emission
      return (⟨emission, known.backlog.getD 0, known.serviceLevel.getD 0⟩, rest)
    else if c = '[' then do
      match ← Json.nextElement true rest with
      | .done _ => throw .mismatched
      | .more text =>
        let (emission, text) ← Json.readInteger text
        readRest emission text
    else .error (Json.mismatch (c :: rest))

/-- Reads the steps of an array, up to its end. -/
def readSteps : (fuel : Nat) → (first : Bool) → (text : List Char) →
    Except ReadError (List Signals × List Char)
  | 0, _, _ => .error .malformed
  | fuel + 1, first, text =>
    match Json.nextElement first text with
    | .error error => .error error
    | .ok (.done rest) => .ok ([], rest)
    | .ok (.more text) => do
      let (signals, text) ← read fuel text
      let (steps, rest) ← readSteps fuel false text
      return (signals :: steps, rest)

/-- Reads a text that holds the signals of a sequence of steps. -/
def listOfText (text : List Char) : Except ReadError (List Signals) :=
  match Json.skipBlanks text with
  | [] => .error .truncated
  | c :: rest =>
    if c = '[' then do
      let (steps, rest) ← readSteps (Json.fuelFor text) true rest
      Json.endText rest
      return steps
    else .error (Json.mismatch (c :: rest))

end Integrity.Temperature.Signals
