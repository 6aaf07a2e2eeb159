import Integrity.Proofs.Event.Arrangement
import Integrity.Proofs.Json.Controls

/-! # The exported log is read back

The export of a log has one line for each record, and the lines are the records again. -/

namespace Integrity

/-! ## Records -/

namespace EventRecord

/-- A record as it can come about: its numbers fit their fields, and its moment is one of the years
that have four digits. -/
structure IsOrdinary (record : EventRecord) : Prop where
  sequence : record.sequence ≤ maxWord64
  timestamp : record.timestamp.IsOrdinary
  event : record.event.Fits

variable {record : EventRecord}

theorem IsOrdinary.isValid (h : record.IsOrdinary) : record.IsValid :=
  ⟨h.sequence, h.timestamp.1, h.event⟩

end EventRecord

/-! ## The lines of an export -/

theorem FieldValue.isPlain_write (value : FieldValue) : Json.IsPlain value.write := by
  cases value with
  | integer n => exact Json.isPlain_ofInt n
  | word n => exact Json.isPlain_ofNat n
  | half n => exact Json.isPlain_ofNat n.toNat
  | flag b => exact Json.isPlain_writeFlag b
  | text | address | role | subsystem => exact Json.isPlain_writeText _

theorem Event.isPlain_write (event : Event) : Json.IsPlain event.write := by
  have hmembers : Json.IsPlain (Json.writeObject event.members) := by
    refine Json.isPlain_writeObject fun member hmember => ?_
    rw [members_eq_writeFields] at hmember
    obtain ⟨entry, -, rfl⟩ := List.mem_map.mp hmember
    exact entry.2.isPlain_write
  rw [write]
  split <;> refine Json.isPlain_writeObject fun member hmember => ?_
  · rw [List.mem_singleton] at hmember
    subst hmember
    exact Json.isPlain_writeText _
  · rw [List.mem_cons, List.mem_singleton] at hmember
    rcases hmember with rfl | rfl
    · exact Json.isPlain_writeText _
    · exact hmembers

theorem EventRecord.isPlain_write (record : EventRecord) : Json.IsPlain record.write := by
  refine Json.isPlain_writeObject fun member hmember => ?_
  rw [List.mem_cons, List.mem_cons, List.mem_singleton] at hmember
  rcases hmember with rfl | rfl | rfl
  · exact Json.isPlain_ofNat _
  · exact Json.isPlain_writeText _
  · exact record.event.isPlain_write

namespace EventLog

theorem lines_export (log : EventLog) :
    Text.lines log.export = log.records.map EventRecord.write := by
  have hexport : log.export =
      (log.records.map EventRecord.write).flatMap fun line => line ++ ['\n'] := by
    rw [EventLog.export, List.flatMap_map]
  rw [hexport]
  refine Text.lines_flatMap fun line hline => ?_
  obtain ⟨record, -, rfl⟩ := List.mem_map.mp hline
  exact record.isPlain_write.isLine

theorem mapM_ofText_write {records : List EventRecord}
    (h : ∀ record ∈ records, record.IsOrdinary) :
    (records.map EventRecord.write).mapM EventRecord.ofText = .ok records := by
  induction records with
  | nil => rfl
  | cons record rest ih =>
    rw [List.forall_mem_cons] at h
    rw [List.map_cons, List.mapM_cons, h.1.isValid.ofText_write, ih h.2]
    rfl

/-- The export has one line for each record, whatever the texts in its events, and the lines are
read back as the records, in their order. -/
theorem records_of_export {log : EventLog} (h : ∀ record ∈ log.records, record.IsOrdinary) :
    Text.lines log.export = log.records.map EventRecord.write ∧
      (Text.lines log.export).mapM EventRecord.ofText = .ok log.records := by
  refine ⟨lines_export log, ?_⟩
  rw [lines_export]
  exact mapM_ofText_write h

/-- Numbers at the ends of their ranges, texts that need escapes, and a leap second. -/
theorem records_of_export_extremes :
    let midnight : Timestamp := ⟨⟨0, 1, 1⟩, 0, 0, 0, 0⟩
    let leap : Timestamp := ⟨⟨9999, 12, 31⟩, 23, 59, 60, 1⟩
    let log : EventLog := ⟨[
      ⟨0, midnight, .auditRecorded ⟨7⟩ Address.null false "\"no\"\n\\\r\x00\x7f 😀"⟩,
      ⟨1, midnight, .auditPaused⟩,
      ⟨maxWord64, leap, .temperatureTicked Temperature.minWord128 Temperature.maxWord128 0 (-1) 1⟩]⟩
    (∀ record ∈ log.records, record.IsOrdinary) ∧ (Text.lines log.export).length = 3 ∧
      (Text.lines log.export).mapM EventRecord.ofText = .ok log.records := by
  intro midnight leap log
  have hordinary : ∀ record ∈ log.records, record.IsOrdinary := by
    have hmidnight : midnight.IsOrdinary := by simp only [Timestamp.IsOrdinary]; decide
    have hleap : leap.IsOrdinary := by simp only [Timestamp.IsOrdinary]; decide
    intro record hrecord
    simp only [log, List.mem_cons, List.not_mem_nil, or_false] at hrecord
    rcases hrecord with rfl | rfl | rfl
    · refine ⟨by decide, hmidnight, ?_⟩
      intro value hvalue
      simp only [Event.values, List.mem_cons, List.not_mem_nil, or_false] at hvalue
      rcases hvalue with rfl | rfl | rfl | rfl
      · exact of_decide_eq_true (p := (7 : UInt64).toNat ≤ maxWord64) rfl
      all_goals trivial
    · exact ⟨by decide, hmidnight, fun value hvalue => absurd hvalue List.not_mem_nil⟩
    · refine ⟨Nat.le_refl _, hleap, ?_⟩
      intro value hvalue
      simp only [Event.values, List.mem_cons, List.not_mem_nil, or_false] at hvalue
      rcases hvalue with rfl | rfl | rfl | rfl | rfl <;> simp only [FieldValue.Fits] <;> decide
  obtain ⟨hlines, hread⟩ := records_of_export hordinary
  exact ⟨hordinary, by rw [hlines]; rfl, hread⟩

end EventLog

end Integrity
