import Integrity.Config.Text
import Integrity.Proofs.Config.Data
import Integrity.Proofs.Config.Valid
import Integrity.Proofs.Toml.Documents

/-! # Configurations as text

A configuration can be written when its numbers fit, and what is written for it is read back. -/

namespace Integrity.Config

open Toml (Draft Items Node Statement Written Writes assignments values)

/-! ## What is written -/

/-- Entries with what is written for their values. -/
inductive EntriesWritten : List (String × List Char) → List (String × Datum) → Prop where
  | nil : EntriesWritten [] []
  | cons {key text value texts entries} : Written text value → EntriesWritten texts entries →
      EntriesWritten ((key, text) :: texts) ((key, value) :: entries)

theorem EntriesWritten.writes {texts : List (String × List Char)}
    {entries : List (String × Datum)} (h : EntriesWritten texts entries) :
    Writes (renderEntries texts) (assignments entries) := by
  induction h with
  | nil => exact .nil
  | @cons key text value texts entries hwritten _ ih => exact .assignment key hwritten ih

theorem written_renderText (text : String) : Written (renderText text) (.string text) :=
  Toml.written_writeText text

theorem written_renderAddress (address : Address) :
    Written (renderAddress address) (.string address.toString) := by
  have h := Toml.written_writeText address.toString
  rw [Address.toString, String.toList_ofList] at h
  exact h

theorem written_toInt (n : Int64) : Written (Numeral.ofInt n.toInt) (.integer n.toInt) :=
  Toml.written_ofInt ⟨n.le_toInt, Int.le_of_lt_add_one n.toInt_lt⟩

theorem written_ofNat {n : Nat} (h : (n : Int) ≤ maxInt64) :
    Written (Numeral.ofNat n) (.integer n) := by
  have hmin : minInt64 ≤ n := Int.le_trans (by decide) (Int.natCast_nonneg n)
  exact Toml.written_ofInt ⟨hmin, h⟩

theorem written_auditors (auditors : List Address) :
    Written (Toml.writeArray (auditors.map renderAddress))
      (.sequence (auditors.map fun auditor => .string auditor.toString)) := by
  have h := Toml.written_writeArray (auditors.map Address.toText)
  rw [List.map_map, List.map_map] at h
  exact h

theorem TemperatureSection.writes (t : TemperatureSection) :
    Writes t.render (assignments t.data) := by
  have h : EntriesWritten _ t.data :=
    .cons (written_renderAddress t.authority) <|
    .cons (written_toInt t.initial) <|
    .cons (written_toInt t.minBound) <|
    .cons (written_toInt t.maxBound) <|
    .cons (written_toInt t.kp) <|
    .cons (written_toInt t.ki) <|
    .cons (written_toInt t.kd) .nil
  exact h.writes

/-- Its numbers without a sign fit those of TOML. -/
def AuditSection.IsWritable (a : AuditSection) : Prop :=
  (a.penalty.units : Int) ≤ maxInt64 ∧ (a.blockInterval.toNat : Int) ≤ maxInt64

/-- Its numbers without a sign fit those of TOML. -/
def DisputeSection.IsWritable (d : DisputeSection) : Prop :=
  (d.appealBond.units : Int) ≤ maxInt64 ∧ (d.minJurySize.toNat : Int) ≤ maxInt64

theorem renderWord_eq_ok {n : Nat} {text : List Char} :
    renderWord n = .ok text ↔ (n : Int) ≤ maxInt64 ∧ text = Numeral.ofNat n := by
  rw [renderWord]
  split
  · next h => simp [h, eq_comm]
  · next h => simp [h]

theorem AuditSection.exists_render (a : AuditSection) :
    (∃ text, a.render = .ok text) ↔ a.IsWritable := by
  simp only [render, bind_eq_ok_iff, renderWord_eq_ok, IsWritable]
  constructor
  · rintro ⟨_, _, ⟨hpenalty, _⟩, _, ⟨hinterval, _⟩, _⟩
    exact ⟨hpenalty, hinterval⟩
  · rintro ⟨hpenalty, hinterval⟩
    exact ⟨_, _, ⟨hpenalty, rfl⟩, _, ⟨hinterval, rfl⟩, rfl⟩

theorem DisputeSection.exists_render (d : DisputeSection) :
    (∃ text, d.render = .ok text) ↔ d.IsWritable := by
  simp only [render, bind_eq_ok_iff, renderWord_eq_ok, IsWritable]
  constructor
  · rintro ⟨_, _, ⟨hbond, _⟩, _, ⟨hjury, _⟩, _⟩
    exact ⟨hbond, hjury⟩
  · rintro ⟨hbond, hjury⟩
    exact ⟨_, _, ⟨hbond, rfl⟩, _, ⟨hjury, rfl⟩, rfl⟩

theorem AuditSection.writes {a : AuditSection} {text : List Char} (h : a.render = .ok text) :
    Writes text (assignments a.data) := by
  simp only [render, bind_eq_ok_iff, renderWord_eq_ok] at h
  obtain ⟨_, ⟨hpenalty, rfl⟩, _, ⟨hinterval, rfl⟩, htext⟩ := h
  cases htext
  have hprobability : (a.probability.toNat : Int) ≤ maxInt64 := by
    have hless := a.probability.toNat_lt
    have hmax : 65536 ≤ maxInt64 := by decide
    omega
  have h : EntriesWritten _ a.data :=
    .cons (written_renderAddress a.authority) <|
    .cons (written_renderAddress a.notifier) <|
    .cons (written_ofNat hprobability) <|
    .cons (written_ofNat hpenalty) <|
    .cons (written_auditors a.auditors) <|
    .cons (written_renderText a.policy.name) <|
    .cons (written_ofNat hinterval) .nil
  exact h.writes

theorem DisputeSection.writes {d : DisputeSection} {text : List Char} (h : d.render = .ok text) :
    Writes text (assignments d.data) := by
  simp only [render, bind_eq_ok_iff, renderWord_eq_ok] at h
  obtain ⟨_, ⟨hbond, rfl⟩, _, ⟨hjury, rfl⟩, htext⟩ := h
  cases htext
  have h : EntriesWritten _ d.data :=
    .cons (written_renderAddress d.authority) <|
    .cons (written_ofNat hbond) <|
    .cons (written_ofNat hjury) <|
    .cons (written_renderAddress d.judge) <|
    .cons (written_renderAddress d.escrowAccount) .nil
  exact h.writes

theorem LoggingSection.writes (l : LoggingSection) :
    Writes l.render (assignments l.plainData) := by
  obtain ⟨level, format, file, filters⟩ := l
  cases file with
  | none =>
    have h : EntriesWritten _ (plainData ⟨level, format, none, filters⟩) :=
      .cons (written_renderText level) <| .cons (written_renderText format) .nil
    exact h.writes
  | some file =>
    have h : EntriesWritten _ (plainData ⟨level, format, some file, filters⟩) :=
      .cons (written_renderText level) <| .cons (written_renderText format) <|
      .cons (written_renderText file) .nil
    exact h.writes

theorem LoggingSection.writes_filters (l : LoggingSection) :
    Writes (renderEntries (l.moduleFilters.map renderText).entries)
      (assignments l.filterData) := by
  have hall (entries : List (String × String)) :
      EntriesWritten (entries.map fun entry => (entry.1, renderText entry.2))
        (entries.map fun entry => (entry.1, .string entry.2)) := by
    induction entries with
    | nil => exact .nil
    | cons entry entries ih => exact .cons (written_renderText entry.2) ih
  exact (hall l.moduleFilters.entries).writes

/-- The statements of a configuration, a table for each section. -/
def statements (c : Config) : List Statement :=
  .header [] "temperature" :: (assignments c.temperature.data ++
    .header [] "audit" :: (assignments c.audit.data ++
      .header [] "disputes" :: (assignments c.disputes.data ++
        .header [] "logging" :: (assignments c.logging.plainData ++
          .header ["logging"] "module_filters" :: assignments c.logging.filterData))))

theorem writes_of_render {c : Config} {text : List Char} (h : c.render = .ok text) :
    Writes text c.statements := by
  simp only [render, bind_eq_ok_iff] at h
  obtain ⟨audit, haudit, disputes, hdisputes, htext⟩ := h
  cases htext
  have hwrites := Writes.header [] "temperature" (by decide) <| c.temperature.writes.append <|
    .blank <| .header [] "audit" (by decide) <| (AuditSection.writes haudit).append <|
    .blank <| .header [] "disputes" (by decide) <| (DisputeSection.writes hdisputes).append <|
    .blank <| .header [] "logging" (by decide) <| c.logging.writes.append <|
    .blank <| .header ["logging"] "module_filters" (by decide) c.logging.writes_filters
  simpa [statements] using hwrites

/-! ## What is read back -/

/-- The tables of the sections before the levels of single modules are read. -/
def closedTables (c : Config) : Items := [
  ("temperature", .table false false (values c.temperature.data)),
  ("audit", .table false false (values c.audit.data)),
  ("disputes", .table false false (values c.disputes.data)),
  ("logging", .table false false (values c.logging.plainData))]

theorem foldlM_statements (c : Config) :
    c.statements.foldlM Draft.apply Draft.empty =
      some ⟨c.closedTables, values c.logging.filterData, .header ["logging"] "module_filters"⟩ := by
  have htemperature : (c.temperature.data.map Prod.fst).Nodup := by
    show ["authority", "initial_temperature", "min_bound", "max_bound", "kp", "ki", "kd"].Nodup
    decide
  have haudit : (c.audit.data.map Prod.fst).Nodup := by
    show ["authority", "notifier", "probability_bps", "penalty_amount", "auditors",
      "reschedule_policy", "block_interval_secs"].Nodup
    decide
  have hdisputes : (c.disputes.data.map Prod.fst).Nodup := by
    show ["authority", "appeal_bond", "min_jury_size", "resolution_authority",
      "escrow_account"].Nodup
    decide
  have hlogging : (c.logging.plainData.map Prod.fst).Nodup := by
    rw [LoggingSection.plainData]
    cases c.logging.file with
    | none =>
      show ["level", "format"].Nodup
      decide
    | some file =>
      show ["level", "format", "file_output"].Nodup
      decide
  have hfilters : (c.logging.filterData.map Prod.fst).Nodup := by
    have hnodup := c.logging.moduleFilters.nodup_keys
    rw [LoggingSection.filterData, List.map_map]
    exact hnodup
  -- The last table is opened within the table of the logging, which is closed for that.
  have hopened : Draft.apply
      ⟨c.closedTables.take 3, values c.logging.plainData, .header [] "logging"⟩
        (.header ["logging"] "module_filters") =
      some ⟨c.closedTables, [], .header ["logging"] "module_filters"⟩ := by
    rw [closedTables, LoggingSection.plainData]
    cases c.logging.file <;> rfl
  have hlast : assignments c.logging.filterData = assignments c.logging.filterData ++ [] :=
    (List.append_nil _).symm
  rw [statements, hlast, Toml.foldlM_table rfl rfl htemperature, Toml.foldlM_table rfl rfl haudit,
    Toml.foldlM_table rfl rfl hdisputes, Toml.foldlM_table rfl rfl hlogging]
  exact Toml.foldlM_table hopened rfl hfilters []

/-- The tables of the sections. -/
def tables (c : Config) : Items := [
  ("temperature", .table false false (values c.temperature.data)),
  ("audit", .table false false (values c.audit.data)),
  ("disputes", .table false false (values c.disputes.data)),
  ("logging", .table false false (values c.logging.plainData ++
    [("module_filters", .table false false (values c.logging.filterData))]))]

theorem close_closedTables (c : Config) :
    Draft.close
        ⟨c.closedTables, values c.logging.filterData, .header ["logging"] "module_filters"⟩ =
      some c.tables := by
  rw [closedTables, tables, LoggingSection.plainData]
  cases c.logging.file <;> rfl

theorem itemData_tables (c : Config) : Datum.mapping (Toml.itemData c.tables) = c.data := by
  simp only [tables, Toml.itemData, Node.datum, Toml.itemData_values, Toml.itemData_append, data,
    LoggingSection.data]

/-- What is written for a configuration is the text of its data. -/
theorem toml_ofText_render {c : Config} {text : List Char} (h : c.render = .ok text) :
    Toml.ofText text = some c.data := by
  have hwrites := writes_of_render h
  obtain ⟨rest, rfl⟩ : ∃ rest, text = '[' :: rest := by
    simp only [render, bind_eq_ok_iff] at h
    obtain ⟨_, _, _, _, htext⟩ := h
    cases htext
    exact ⟨_, rfl⟩
  rw [hwrites.ofText (by decide) c.foldlM_statements c.close_closedTables, itemData_tables]

/-- A configuration is read back from what is written for it. -/
theorem ofText_render {c : Config} {text : List Char} (h : c.render = .ok text) :
    ofText text = .ok c := by
  rw [ofText, toml_ofText_render h]
  show (ofDatum .toml c.data).mapError _ = _
  rw [ofDatum_data]
  rfl

/-- The numbers without a sign fit those of TOML. -/
def IsWritable (c : Config) : Prop :=
  c.audit.IsWritable ∧ c.disputes.IsWritable

theorem exists_render (c : Config) : (∃ text, c.render = .ok text) ↔ c.IsWritable := by
  rw [IsWritable, ← AuditSection.exists_render, ← DisputeSection.exists_render]
  simp only [render, bind_eq_ok_iff]
  constructor
  · rintro ⟨_, audit, haudit, disputes, hdisputes, _⟩
    exact ⟨⟨audit, haudit⟩, ⟨disputes, hdisputes⟩⟩
  · rintro ⟨⟨audit, haudit⟩, ⟨disputes, hdisputes⟩⟩
    exact ⟨_, audit, haudit, disputes, hdisputes, rfl⟩

end Integrity.Config
