import Integrity.Event
import Integrity.Time.Timestamp

/-!
# The event log

Records are appended and never changed. They are numbered from zero, so that a record's number is
its place in the log. A subscriber reads the log from the point where it subscribed; one that falls
behind loses the oldest records that it has not read, though the log keeps them.
-/

namespace Integrity

/-- An entry of the log. -/
structure EventRecord where
  sequence : Nat
  timestamp : Timestamp
  event : Event
deriving DecidableEq

/-- All events so far. -/
structure EventLog where
  records : List EventRecord
deriving DecidableEq, Inhabited

namespace EventLog

/-- The log before the first event. -/
def empty : EventLog :=
  ⟨[]⟩

/-- The number of records. -/
def size (log : EventLog) : Nat :=
  log.records.length

/-- Whether there are no records. -/
def isEmpty (log : EventLog) : Bool :=
  log.records.isEmpty

/-- The records of events that are appended at one moment, numbered from `start`. -/
def recordsFrom (start : Nat) (now : Timestamp) : List Event → List EventRecord
  | [] => []
  | event :: rest => ⟨start, now, event⟩ :: recordsFrom (start + 1) now rest

/-- Appends events, in order. -/
def append (log : EventLog) (now : Timestamp) (events : List Event) : EventLog :=
  ⟨log.records ++ recordsFrom log.size now events⟩

/-- The events, first to last. -/
def events (log : EventLog) : List Event :=
  log.records.map EventRecord.event

/-- The records of one subsystem, in order. -/
def historyOf (log : EventLog) (subsystem : Subsystem) : List EventRecord :=
  log.records.filter fun record => record.event.subsystem = subsystem

theorem map_event_recordsFrom (start : Nat) (now : Timestamp) (events : List Event) :
    (recordsFrom start now events).map EventRecord.event = events := by
  induction events generalizing start with
  | nil => rfl
  | cons event rest ih => simp [recordsFrom, ih]

theorem events_append (log : EventLog) (now : Timestamp) (new : List Event) :
    (log.append now new).events = log.events ++ new := by
  simp [append, events, map_event_recordsFrom]

/-! ## The events of one subsystem -/

/-- The events of one subsystem, in order. -/
def eventsOf (log : EventLog) (subsystem : Subsystem) : List Event :=
  (log.historyOf subsystem).map EventRecord.event

theorem eventsOf_eq_filter (log : EventLog) (subsystem : Subsystem) :
    log.eventsOf subsystem = log.events.filter fun event => event.subsystem = subsystem := by
  rw [eventsOf, historyOf, events, List.filter_map]
  rfl

theorem eventsOf_append_self (log : EventLog) (now : Timestamp) {new : List Event}
    {subsystem : Subsystem} (h : ∀ event ∈ new, event.subsystem = subsystem) :
    (log.append now new).eventsOf subsystem = log.eventsOf subsystem ++ new := by
  rw [eventsOf_eq_filter, events_append, List.filter_append, ← eventsOf_eq_filter,
    List.filter_eq_self.mpr]
  intro event hevent
  exact decide_eq_true (h event hevent)

theorem eventsOf_append_other (log : EventLog) (now : Timestamp) {new : List Event}
    {subsystem : Subsystem} (h : ∀ event ∈ new, event.subsystem ≠ subsystem) :
    (log.append now new).eventsOf subsystem = log.eventsOf subsystem := by
  rw [eventsOf_eq_filter, events_append, List.filter_append, ← eventsOf_eq_filter,
    List.filter_eq_nil_iff.mpr, List.append_nil]
  intro event hevent
  simpa using h event hevent

end EventLog

/-- A reader of the log. -/
structure Subscription where
  next : Nat
deriving DecidableEq, Inhabited

namespace Subscription

/-- How many records wait for a subscriber before it loses the oldest. -/
def capacity : Nat :=
  1024

/-- Why there is no next record. -/
inductive Miss where
  | upToDate
  /-- The subscriber fell behind and lost `missed` records. -/
  | lagged (missed : Nat)
deriving DecidableEq, Repr

/-- Subscribes to what is appended from now on. -/
def start (log : EventLog) : Subscription :=
  ⟨log.size⟩

/-- The next record. A subscriber that fell behind is told once, and then goes on with the oldest
record that was kept for it. -/
def receive (subscription : Subscription) (log : EventLog) :
    Except Miss EventRecord × Subscription :=
  let waiting := log.size - subscription.next
  if capacity < waiting then
    let missed := waiting - capacity
    (.error (.lagged missed), ⟨subscription.next + missed⟩)
  else
    match log.records[subscription.next]? with
    | some record => (.ok record, ⟨subscription.next + 1⟩)
    | none => (.error .upToDate, subscription)

end Subscription

end Integrity
