import Integrity.Event.Log
import Integrity.Event.Schema
import Integrity.Json.Typed
import Integrity.Table
import Integrity.Time.Text

/-!
# Reading events

Members may come in any order, and those that are not known are passed over. When the fields of an
event come before its kind they are kept until the kind is known; a number of 128 bits is not found
among what was kept. A record or an event may also be an array of its parts.
-/

namespace Integrity

open Json (ReadError)

/-- Reads the value of a field. -/
def FieldKind.read (kind : FieldKind) (text : List Char) :
    Except ReadError (FieldValue × List Char) :=
  match kind with
  | .integer => (Json.readInteger text).map fun (n, rest) => (.integer n, rest)
  | .word => (Json.readNatural maxWord64 text).map fun (n, rest) => (.word n, rest)
  | .half => (Json.readNatural 65535 text).map fun (n, rest) => (.half (UInt16.ofNat n), rest)
  | .flag => (Json.readFlag text).map fun (value, rest) => (.flag value, rest)
  | .text => (Json.readText text).map fun (value, rest) => (.text value, rest)
  | .address => do
    let (digits, rest) ← Json.readText text
    let address ← Json.required (Address.ofString digits).toOption
    return (.address address, rest)
  | .role => (Json.readChoice Role.ofName? text).map fun (value, rest) => (.role value, rest)
  | .subsystem =>
    (Json.readChoice Subsystem.ofName? text).map fun (value, rest) =>
      (.subsystem value, rest)

/-- The name that a value gives: a string, or the only key of an object whose value is empty. -/
def Datum.name? : Datum → Option String
  | .string name => some name
  | .mapping [(name, .null)] => some name
  | .mapping [(name, .mapping [])] => some name
  | _ => none

/-- A field that was kept as a value. -/
def FieldKind.ofDatum? : FieldKind → Datum → Option FieldValue
  | .integer, _ => none
  | .word, .integer n => if 0 ≤ n then some (.word n.toNat) else none
  | .half, .integer n =>
    if 0 ≤ n ∧ n.toNat ≤ 65535 then some (.half (UInt16.ofNat n.toNat)) else none
  | .flag, .boolean value => some (.flag value)
  | .text, .string value => some (.text value)
  | .address, .string digits => (Address.ofString digits).toOption.map .address
  | .role, value => do some (.role (← Role.ofName? (← value.name?)))
  | .subsystem, value => do some (.subsystem (← Subsystem.ofName? (← value.name?)))
  | _, _ => none

namespace EventKind

/-- The event whose fields have been found, when none is missing. -/
def gather? (kind : EventKind) (found : List (String × FieldValue)) : Option Event := do
  let values ← kind.fields.mapM fun field => lookupEntry field.1 found
  Event.ofValues? kind values

/-- Reads a member of the fields of an event, from after its key. -/
def readMember (kind : EventKind) (fuel : Nat) (found : List (String × FieldValue)) (key : String)
    (text : List Char) : Except ReadError (List (String × FieldValue) × List Char) :=
  match lookupEntry key kind.fields with
  | none => (Json.skipMember fuel text).map fun rest => (found, rest)
  | some field =>
    if (lookupEntry key found).isSome then .error .mismatched
    else do
      let text ← Json.readColon text
      let (value, rest) ← field.read text
      return (insertEntry key value found, rest)

/-- Reads the fields of an event of a known kind. -/
def readData (kind : EventKind) (fuel : Nat) (text : List Char) :
    Except ReadError (Event × List Char) :=
  if kind.fields.isEmpty then do
    let rest ← Json.readNull text
    let event ← Json.required (kind.gather? [])
    return (event, rest)
  else
    match Json.skipBlanks text with
    | [] => .error .truncated
    | c :: rest =>
      if c = '{' then do
        let (found, rest) ← Json.foldMembers (kind.readMember fuel) fuel true [] rest
        let event ← Json.required (kind.gather? found)
        return (event, rest)
      else .error (Json.mismatch (c :: rest))

/-- The known fields among members that were kept, unless one comes twice. -/
def collect? (kind : EventKind) : (found : List (String × FieldValue)) →
    (members : List (String × Datum)) → Option (List (String × FieldValue))
  | found, [] => some found
  | found, (key, value) :: rest =>
    match lookupEntry key kind.fields with
    | none => collect? kind found rest
    | some field =>
      if (lookupEntry key found).isSome then none
      else do collect? kind (insertEntry key (← field.ofDatum? value) found) rest

/-- The event of a kind whose fields were kept as a value. -/
def ofDatum? (kind : EventKind) (data : Datum) : Option Event :=
  if kind.fields.isEmpty then
    match data with
    | .null => kind.gather? []
    | _ => none
  else
    match data with
    | .mapping members => do kind.gather? (← kind.collect? [] members)
    | _ => none

end EventKind

namespace Event

/-- What is known of an event while its members are read. -/
inductive Known where
  | nothing
  | kindOnly (kind : EventKind)
  | dataOnly (value : Datum)
  | whole (event : Event)

/-- Reads a member of an event, from after its key. -/
def readMember (levels fuel : Nat) (known : Known) (key : String) (text : List Char) :
    Except ReadError (Known × List Char) :=
  if key = "type" then
    match known with
    | .nothing => do
      let text ← Json.readColon text
      let (kind, rest) ← Json.readChoice EventKind.ofName? text
      return (.kindOnly kind, rest)
    | .dataOnly value => do
      let text ← Json.readColon text
      let (kind, rest) ← Json.readChoice EventKind.ofName? text
      let event ← Json.required (kind.ofDatum? value)
      return (.whole event, rest)
    | _ => .error .mismatched
  else if key = "data" then
    match known with
    | .nothing => do
      let text ← Json.readColon text
      let (value, rest) ← Json.readValue levels fuel text
      return (.dataOnly value, rest)
    | .kindOnly kind => do
      let text ← Json.readColon text
      let (event, rest) ← kind.readData fuel text
      return (.whole event, rest)
    | _ => .error .mismatched
  else (Json.skipMember fuel text).map fun rest => (known, rest)

/-- The event that is known when there are no more members. -/
def Known.event : Known → Except ReadError Event
  | .whole event => .ok event
  | .kindOnly kind => Json.required (kind.gather? [])
  | _ => .error .mismatched

/-- Reads an event in which values that are kept are nested at most `levels` deep. -/
def read (levels fuel : Nat) (text : List Char) : Except ReadError (Event × List Char) :=
  match Json.skipBlanks text with
  | [] => .error .truncated
  | c :: rest =>
    if c = '{' then do
      let (known, rest) ← Json.foldMembers (readMember levels fuel) fuel true .nothing rest
      let event ← known.event
      return (event, rest)
    else if c = '[' then
      match Json.nextElement true rest with
      | .error error => .error error
      | .ok (.done _) => .error .mismatched
      | .ok (.more text) => do
        let (kind, text) ← Json.readChoice EventKind.ofName? text
        match ← Json.nextElement false text with
        | .done _ => throw .mismatched
        | .more text =>
          let (event, text) ← kind.readData fuel text
          let rest ← Json.endArray text
          return (event, rest)
    else .error (Json.mismatch (c :: rest))

/-- Reads a text that holds one event. -/
def ofText (text : List Char) : Except ReadError Event := do
  let (event, rest) ← read (Json.nestingLimit - 1) (Json.fuelFor text) text
  Json.endText rest
  return event

end Event

/-- Reads a moment. -/
def Timestamp.read (text : List Char) : Except ReadError (Timestamp × List Char) := do
  let (value, rest) ← Json.readText text
  let timestamp ← Json.required (Timestamp.ofText value.toList)
  return (timestamp, rest)

namespace EventRecord

/-- What is known of a record while its members are read. -/
structure Known where
  sequence : Option Nat
  timestamp : Option Timestamp
  event : Option Event

/-- How deep values are nested in the event of a record. -/
def eventLevels : Nat :=
  Json.nestingLimit - 2

/-- Reads a member of a record, from after its key. -/
def readMember (fuel : Nat) (known : Known) (key : String) (text : List Char) :
    Except ReadError (Known × List Char) :=
  if key = "sequence" then
    if known.sequence.isSome then .error .mismatched
    else do
      let (sequence, rest) ← Json.readNatural maxWord64 (← Json.readColon text)
      return ({ known with sequence := some sequence }, rest)
  else if key = "timestamp" then
    if known.timestamp.isSome then .error .mismatched
    else do
      let (timestamp, rest) ← Timestamp.read (← Json.readColon text)
      return ({ known with timestamp := some timestamp }, rest)
  else if key = "event" then
    if known.event.isSome then .error .mismatched
    else do
      let (event, rest) ← Event.read eventLevels fuel (← Json.readColon text)
      return ({ known with event := some event }, rest)
  else (Json.skipMember fuel text).map fun rest => (known, rest)

/-- The text of the next part of an array, which has to be there. -/
def nextPart (first : Bool) (text : List Char) : Except ReadError (List Char) := do
  match ← Json.nextElement first text with
  | .more text => return text
  | .done _ => throw .mismatched

/-- Reads a record. -/
def read (fuel : Nat) (text : List Char) : Except ReadError (EventRecord × List Char) :=
  match Json.skipBlanks text with
  | [] => .error .truncated
  | c :: rest =>
    if c = '{' then do
      let (known, rest) ← Json.foldMembers (readMember fuel) fuel true ⟨none, none, none⟩ rest
      let sequence ← Json.required known.sequence
      let timestamp ← Json.required known.timestamp
      let event ← Json.required known.event
      return (⟨sequence, timestamp, event⟩, rest)
    else if c = '[' then do
      let (sequence, text) ← Json.readNatural maxWord64 (← nextPart true rest)
      let (timestamp, text) ← Timestamp.read (← nextPart false text)
      let (event, text) ← Event.read eventLevels fuel (← nextPart false text)
      let rest ← Json.endArray text
      return (⟨sequence, timestamp, event⟩, rest)
    else .error (Json.mismatch (c :: rest))

/-- Reads a text that holds one record. -/
def ofText (text : List Char) : Except ReadError EventRecord := do
  let (record, rest) ← read (Json.fuelFor text) text
  Json.endText rest
  return record

end EventRecord

end Integrity
