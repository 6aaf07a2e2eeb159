import Integrity.Event.Log

/-! # Numbers and parts of the log

Records are only ever added at the end, so each has its place for its number for good. Every record
is in the history of one subsystem. -/

namespace Integrity.EventLog

/-- The records are numbered by their places. -/
def Consecutive (log : EventLog) : Prop :=
  log.records.map EventRecord.sequence = List.range log.size

theorem consecutive_empty : empty.Consecutive :=
  rfl

theorem map_sequence_recordsFrom (start : Nat) (now : Timestamp) (events : List Event) :
    (recordsFrom start now events).map EventRecord.sequence =
      List.range' start events.length := by
  induction events generalizing start with
  | nil => rfl
  | cons event rest ih => rw [recordsFrom, List.map_cons, ih, List.length_cons, List.range'_succ]

theorem length_recordsFrom (start : Nat) (now : Timestamp) (events : List Event) :
    (recordsFrom start now events).length = events.length := by
  rw [← List.length_map EventRecord.event, map_event_recordsFrom]

theorem size_append (log : EventLog) (now : Timestamp) (events : List Event) :
    (log.append now events).size = log.size + events.length := by
  rw [append, size, List.length_append, length_recordsFrom, size]

theorem Consecutive.append {log : EventLog} (h : log.Consecutive) (now : Timestamp)
    (events : List Event) : (log.append now events).Consecutive := by
  rw [Consecutive, size_append, EventLog.append, List.map_append, h, map_sequence_recordsFrom,
    List.range_eq_range', List.range_eq_range', ← List.range'_append_1, Nat.zero_add]

theorem prefix_append (log : EventLog) (now : Timestamp) (events : List Event) :
    log.records <+: (log.append now events).records :=
  List.prefix_append log.records _

theorem eventsOf_append (log : EventLog) (now : Timestamp) (new : List Event)
    (subsystem : Subsystem) :
    (log.append now new).eventsOf subsystem =
      log.eventsOf subsystem ++ new.filter fun event => event.subsystem = subsystem := by
  rw [eventsOf_eq_filter, events_append, List.filter_append, ← eventsOf_eq_filter]

/-- The histories of the subsystems have, between them, each record once. -/
theorem perm_historyOf (log : EventLog) :
    (Subsystem.all.flatMap log.historyOf).Perm log.records := by
  obtain ⟨records⟩ := log
  induction records with
  | nil => exact List.Perm.refl []
  | cons record rest ih =>
      simp only [Subsystem.all, historyOf, List.flatMap_cons, List.flatMap_nil,
        List.append_nil] at ih
      cases hsubsystem : record.event.subsystem with
      | temperature => simpa [Subsystem.all, historyOf, hsubsystem] using ih
      | audit =>
          simpa [Subsystem.all, historyOf, hsubsystem] using
            List.perm_middle.trans (ih.cons record)
      | disputes =>
          rw [← List.append_assoc] at ih
          simpa [Subsystem.all, historyOf, hsubsystem] using
            List.perm_middle.trans (ih.cons record)

end Integrity.EventLog
