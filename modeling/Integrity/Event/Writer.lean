import Integrity.Event.Log
import Integrity.Event.Schema
import Integrity.Json.Writer
import Integrity.Time.Text

/-!
# Writing events

An event is an object of its kind and, if the kind has fields, an object of those. A record adds its
place and its moment. The log is exported with one record on a line.
-/

namespace Integrity

/-- The value of a field. -/
def FieldValue.write : FieldValue → List Char
  | integer value => Numeral.ofInt value
  | word value => Numeral.ofNat value
  | half value => Numeral.ofNat value.toNat
  | flag value => Json.writeFlag value
  | text value => Json.writeText value.toList
  | address value => Json.writeText value.toText
  | role value => Json.writeText value.name.toList
  | subsystem value => Json.writeText value.name.toList

namespace Event

/-- The fields of an event, with their values as they are written. -/
def members (event : Event) : List (String × List Char) :=
  (event.kind.fields.map Prod.fst).zip (event.values.map FieldValue.write)

/-- An event. -/
def write (event : Event) : List Char :=
  let kind := ("type", Json.writeText event.kind.name.toList)
  if event.kind.fields.isEmpty then Json.writeObject [kind]
  else Json.writeObject [kind, ("data", Json.writeObject event.members)]

end Event

/-- A record. -/
def EventRecord.write (record : EventRecord) : List Char :=
  Json.writeObject [
    ("sequence", Numeral.ofNat record.sequence),
    ("timestamp", Json.writeText record.timestamp.toText),
    ("event", record.event.write)]

/-- The log, each record on a line of its own. -/
def EventLog.export (log : EventLog) : List Char :=
  log.records.flatMap fun record => record.write ++ ['\n']

end Integrity
