import Integrity.Reading
import Integrity.Number.Notation
import Integrity.Width

/-!
# Metrics

Counters of what the subsystems have done and gauges of where they stand, kept by the readings of
each operation. A gauge holds a signed number of 64 bits.
-/

namespace Integrity

/-- The metrics of an engine. -/
structure Metrics where
  temperature : Int
  ticks : Nat
  rejectedTicks : Nat
  auditsScheduled : Nat
  auditsRecorded : Nat
  penalties : Nat
  disputesRaised : Nat
  disputesResolved : Nat
  escrowedBonds : Int
deriving DecidableEq, Repr, Inhabited

namespace Metrics

/-- The metrics before anything was read. -/
def zero : Metrics :=
  ⟨0, 0, 0, 0, 0, 0, 0, 0, 0⟩

/-- What a gauge shows of a number: the largest that it can show stands for all that do not fit. -/
def gauge (value : Int) : Int :=
  if FitsInt64 value then value else maxInt64

theorem gauge_of_nonneg {value : Int} (h : 0 ≤ value) : gauge value = min value maxInt64 := by
  rw [gauge]
  split
  · next hfits => exact (Int.min_eq_left hfits.2).symm
  · next hbeyond =>
    simp only [FitsInt64, minInt64, maxInt64] at hbeyond ⊢
    omega

/-- The metrics after a reading. -/
def read (m : Metrics) : Reading → Metrics
  | .temperature value => { m with temperature := gauge value }
  | .tickApplied => { m with ticks := m.ticks + 1 }
  | .tickRejected => { m with rejectedTicks := m.rejectedTicks + 1 }
  | .auditScheduled => { m with auditsScheduled := m.auditsScheduled + 1 }
  | .auditRecorded => { m with auditsRecorded := m.auditsRecorded + 1 }
  | .penaltyApplied => { m with penalties := m.penalties + 1 }
  | .disputeRaised => { m with disputesRaised := m.disputesRaised + 1 }
  | .disputeResolved => { m with disputesResolved := m.disputesResolved + 1 }
  | .escrow total => { m with escrowedBonds := gauge total.units }

/-- The metrics after readings, in order. -/
def readAll (m : Metrics) (readings : List Reading) : Metrics :=
  readings.foldl read m

/-- The kinds of metrics. -/
inductive Kind where
  | counter
  | gauge
deriving DecidableEq, Repr

/-- The name of a kind. -/
def Kind.name : Kind → String
  | counter => "counter"
  | gauge => "gauge"

/-- A metric as it is shown. -/
structure Sample where
  name : String
  help : String
  kind : Kind
  value : Int
deriving DecidableEq, Repr

/-- The metrics, in the order of their names. -/
def samples (m : Metrics) : List Sample := [
  ⟨"aice_audits_recorded_total", "Total audit outcomes recorded", .counter, m.auditsRecorded⟩,
  ⟨"aice_audits_scheduled_total", "Total audits scheduled", .counter, m.auditsScheduled⟩,
  ⟨"aice_disputes_raised_total", "Total disputes raised", .counter, m.disputesRaised⟩,
  ⟨"aice_disputes_resolved_total", "Total disputes resolved", .counter, m.disputesResolved⟩,
  ⟨"aice_escrowed_bonds", "Sum of appeal bonds currently held in escrow", .gauge,
    m.escrowedBonds⟩,
  ⟨"aice_penalties_total", "Total penalties applied for failed audits", .counter, m.penalties⟩,
  ⟨"aice_rejected_ticks_total", "Temperature ticks rejected without state change", .counter,
    m.rejectedTicks⟩,
  ⟨"aice_temperature", "Current global temperature", .gauge, m.temperature⟩,
  ⟨"aice_ticks_total", "Total applied temperature ticks", .counter, m.ticks⟩]

/-- The value of a metric as it is written: the nearest number of double precision. -/
def valueText (value : Int) : String :=
  let magnitude := (Number.Magnitude.ofNat? value.natAbs).getD .zero
  String.ofList (Number.Binary64.signed (value < 0) magnitude.text)

/-- The three lines of a metric. -/
def Sample.text (s : Sample) : String :=
  s!"# HELP {s.name} {s.help}\n# TYPE {s.name} {s.kind.name}\n{s.name} {valueText s.value}\n"

/-- The metrics as text. -/
def text (m : Metrics) : String :=
  String.join (m.samples.map Sample.text)

end Metrics

end Integrity
