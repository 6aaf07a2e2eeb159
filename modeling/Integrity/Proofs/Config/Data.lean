import Integrity.Config.Decode
import Integrity.Proofs.Entries
import Integrity.Proofs.Text.Address

/-! # Configurations as data

The data of a configuration has an entry for every part, and is decoded to the configuration: each
entry is read into the part that it was taken from. -/

namespace Integrity.Config

/-! ## Values -/

theorem decodeInt64_toInt (n : Int64) : decodeInt64 (.integer n.toInt) = .ok n := by
  have hfits : FitsInt64 n.toInt := ⟨n.le_toInt, Int.le_of_lt_add_one n.toInt_lt⟩
  rw [decodeInt64, if_pos hfits, Int64.ofInt_toInt]

theorem decodeNatural_ofNat {n most : Nat} (h : n ≤ most) (expected : String) :
    decodeNatural most expected (.integer n) = .ok n :=
  if_pos ⟨Int.natCast_nonneg n, h⟩

theorem decodeAmount_units (amount : Amount) :
    decodeAmount (.integer amount.units) = .ok amount := by
  have hamount : Amount.ofNat amount.units = amount := by
    rw [Amount.ext_iff]
    exact Nat.min_eq_left amount.units_le
  rw [decodeAmount, decodeNatural_ofNat amount.units_le]
  show Except.ok (Amount.ofNat amount.units) = _
  rw [hamount]

theorem decodeAddress_toString (address : Address) :
    decodeAddress (.string address.toString) = .ok address := by
  show (Address.ofString (String.ofList address.toText)).mapError _ = _
  rw [Address.ofString_ofList_toText]
  rfl

theorem decodeAddresses_toString (addresses : List Address) :
    decodeAddresses (.sequence (addresses.map fun address => .string address.toString)) =
      .ok addresses := by
  rw [decodeAddresses]
  induction addresses with
  | nil => rfl
  | cons address rest ih =>
    rw [List.map_cons, List.mapM_cons, decodeAddress_toString, ih]
    rfl

theorem decodePolicy_name (dialect : Dialect) (policy : Audit.ReschedulePolicy) :
    decodePolicy dialect (.string policy.name) = .ok policy := by
  have hname : policyOfName policy.name = .ok policy := by
    cases policy <;> rfl
  rw [decodePolicy]
  split
  · exact hname
  · exact hname

theorem decodeTexts_entries (table : Table String String) :
    decodeTexts (.mapping (table.entries.map fun entry => (entry.1, .string entry.2))) =
      .ok table := by
  have hinsert : ∀ first rest, table.entries = first.entries ++ rest →
      (rest.map fun entry => (entry.1, Datum.string entry.2)).foldlM
        (fun (table : Table String String) entry =>
          (decodeText entry.2).map (table.insert entry.1)) first = .ok table := by
    intro first rest h
    induction rest generalizing first with
    | nil =>
      rw [List.append_nil] at h
      obtain rfl : first = table := by
        cases first
        cases table
        cases h
        rfl
      rfl
    | cons entry rest ih =>
      have hnew : entry.1 ∉ first.entries.map Prod.fst := by
        have hnodup := table.nodup_keys
        rw [h, List.map_append, List.map_cons] at hnodup
        exact fun hmem => (List.nodup_append.mp hnodup).2.2 entry.1 hmem entry.1
          List.mem_cons_self rfl
      have hentries : (first.insert entry.1 entry.2).entries = first.entries ++ [entry] :=
        insertEntry_of_not_mem hnew entry.2
      exact ih (first.insert entry.1 entry.2) (by simp [h, hentries])
  exact hinsert Table.empty table.entries rfl

/-! ## Sections -/

/-- Entries that are read one after the other, each into the part with its key. -/
inductive Fills {σ : Type} (fields : List (Field σ)) : σ → List (String × Datum) → σ → Prop where
  | nil (state) : Fills fields state [] state
  | cons {state next final key value entries field} :
      fields.find? (fun field => field.key == key) = some field →
      field.read value state = .ok next → Fills fields next entries final →
      Fills fields state ((key, value) :: entries) final

theorem Fills.readEntries {σ : Type} {fields : List (Field σ)} {state final : σ}
    {entries : List (String × Datum)} (h : Fills fields state entries final) :
    readEntries fields state entries = .ok final := by
  induction h with
  | nil state => rfl
  | cons hfield hread _ ih =>
    rw [Config.readEntries, List.foldlM_cons]
    dsimp only
    rw [hfield]
    show (Field.read _ _ _ >>= _) = _
    rw [hread]
    exact ih

theorem Fills.decodeSection {σ : Type} {fields : List (Field σ)} {state final : σ}
    {entries : List (String × Datum)} (h : Fills fields state entries final)
    (hcomplete : firstMissing fields entries = none) (dialect : Dialect) (name : String) :
    decodeSection dialect name fields state (.mapping entries) = .ok final := by
  rw [Config.decodeSection]
  show (Config.readEntries fields state entries >>= _) = _
  rw [h.readEntries]
  rw [hcomplete]
  rfl

theorem read_field {σ α : Type} {key : String} {isOptional : Bool}
    {decode : Datum → Except DecodeError α} {set : α → σ → σ} {found : Datum} {value : α}
    (h : decode found = .ok value) (state : σ) :
    (field key isOptional decode set).read found state = .ok (set value state) := by
  show (decode found).map _ = _
  rw [h]
  rfl

/-- The entries of the temperature. -/
def TemperatureSection.data (t : TemperatureSection) : List (String × Datum) := [
  ("authority", .string t.authority.toString),
  ("initial_temperature", .integer t.initial.toInt),
  ("min_bound", .integer t.minBound.toInt),
  ("max_bound", .integer t.maxBound.toInt),
  ("kp", .integer t.kp.toInt),
  ("ki", .integer t.ki.toInt),
  ("kd", .integer t.kd.toInt)]

theorem TemperatureSection.decode_data (dialect : Dialect) (t : TemperatureSection) :
    decodeSection dialect "TemperatureSection" temperatureFields .blank (.mapping t.data) =
      .ok t := by
  have hfills : Fills temperatureFields .blank t.data t :=
    .cons rfl (read_field (decodeAddress_toString _) _) <|
    .cons rfl (read_field (decodeInt64_toInt _) _) <|
    .cons rfl (read_field (decodeInt64_toInt _) _) <|
    .cons rfl (read_field (decodeInt64_toInt _) _) <|
    .cons rfl (read_field (decodeInt64_toInt _) _) <|
    .cons rfl (read_field (decodeInt64_toInt _) _) <|
    .cons rfl (read_field (decodeInt64_toInt _) _) <|
    .nil t
  exact hfills.decodeSection rfl dialect "TemperatureSection"

/-- The entries of the audits. -/
def AuditSection.data (a : AuditSection) : List (String × Datum) := [
  ("authority", .string a.authority.toString),
  ("notifier", .string a.notifier.toString),
  ("probability_bps", .integer a.probability.toNat),
  ("penalty_amount", .integer a.penalty.units),
  ("auditors", .sequence (a.auditors.map fun auditor => .string auditor.toString)),
  ("reschedule_policy", .string a.policy.name),
  ("block_interval_secs", .integer a.blockInterval.toNat)]

theorem AuditSection.decode_data (dialect : Dialect) (a : AuditSection) :
    decodeSection dialect "AuditSection" (auditFields dialect) .default (.mapping a.data) =
      .ok a := by
  have hprobability : a.probability.toNat ≤ 65535 := Nat.le_of_lt_succ a.probability.toNat_lt
  have hinterval : a.blockInterval.toNat ≤ maxWord64 := Nat.le_of_lt_succ a.blockInterval.toNat_lt
  have hfills : Fills (auditFields dialect) .default a.data
      { a with
        probability := UInt16.ofNat a.probability.toNat
        blockInterval := UInt64.ofNat a.blockInterval.toNat } :=
    .cons rfl (read_field (decodeAddress_toString _) _) <|
    .cons rfl (read_field (decodeAddress_toString _) _) <|
    .cons rfl (read_field (decodeNatural_ofNat hprobability _) _) <|
    .cons rfl (read_field (decodeAmount_units _) _) <|
    .cons rfl (read_field (decodeAddresses_toString _) _) <|
    .cons rfl (read_field (decodePolicy_name _ _) _) <|
    .cons rfl (read_field (decodeNatural_ofNat hinterval _) _) <|
    .nil _
  rw [UInt16.ofNat_toNat, UInt64.ofNat_toNat] at hfills
  exact hfills.decodeSection rfl dialect "AuditSection"

/-- The entries of the disputes. -/
def DisputeSection.data (d : DisputeSection) : List (String × Datum) := [
  ("authority", .string d.authority.toString),
  ("appeal_bond", .integer d.appealBond.units),
  ("min_jury_size", .integer d.minJurySize.toNat),
  ("resolution_authority", .string d.judge.toString),
  ("escrow_account", .string d.escrowAccount.toString)]

theorem DisputeSection.decode_data (dialect : Dialect) (d : DisputeSection) :
    decodeSection dialect "DisputeSection" disputeFields .default (.mapping d.data) = .ok d := by
  have hjury : d.minJurySize.toNat ≤ maxWord64 := Nat.le_of_lt_succ d.minJurySize.toNat_lt
  have hfills : Fills disputeFields .default d.data
      { d with minJurySize := UInt64.ofNat d.minJurySize.toNat } :=
    .cons rfl (read_field (decodeAddress_toString _) _) <|
    .cons rfl (read_field (decodeAmount_units _) _) <|
    .cons rfl (read_field (decodeNatural_ofNat hjury _) _) <|
    .cons rfl (read_field (decodeAddress_toString _) _) <|
    .cons rfl (read_field (decodeAddress_toString _) _) <|
    .nil _
  rw [UInt64.ofNat_toNat] at hfills
  exact hfills.decodeSection rfl dialect "DisputeSection"

/-- The entries of the logging, up to the levels of single modules. A file that is not there has no
entry. -/
def LoggingSection.plainData (l : LoggingSection) : List (String × Datum) :=
  [("level", .string l.level), ("format", .string l.format)]
    ++ (l.file.map fun file => ("file_output", .string file)).toList

/-- The levels of single modules. -/
def LoggingSection.filterData (l : LoggingSection) : List (String × Datum) :=
  l.moduleFilters.entries.map fun entry => (entry.1, .string entry.2)

/-- The entries of the logging. -/
def LoggingSection.data (l : LoggingSection) : List (String × Datum) :=
  l.plainData ++ [("module_filters", .mapping l.filterData)]

theorem LoggingSection.decode_data (dialect : Dialect) (l : LoggingSection) :
    decodeSection dialect "LoggingConfig" loggingFields .default (.mapping l.data) = .ok l := by
  obtain ⟨level, format, file, filters⟩ := l
  have hfilters := decodeTexts_entries filters
  cases file with
  | none =>
    have hfills : Fills loggingFields .default (data ⟨level, format, none, filters⟩)
        ⟨level, format, none, filters⟩ :=
      .cons rfl rfl <| .cons rfl rfl <| .cons rfl (read_field hfilters _) <| .nil _
    exact hfills.decodeSection rfl dialect "LoggingConfig"
  | some file =>
    have hfills : Fills loggingFields .default (data ⟨level, format, some file, filters⟩)
        ⟨level, format, some file, filters⟩ :=
      .cons rfl rfl <| .cons rfl rfl <| .cons rfl rfl <|
      .cons rfl (read_field hfilters _) <| .nil _
    exact hfills.decodeSection rfl dialect "LoggingConfig"

/-! ## The whole -/

/-- The data of a configuration. -/
def data (c : Config) : Datum :=
  .mapping [
    ("temperature", .mapping c.temperature.data),
    ("audit", .mapping c.audit.data),
    ("disputes", .mapping c.disputes.data),
    ("logging", .mapping c.logging.data)]

/-- The data of a configuration is decoded to the configuration. -/
theorem ofDatum_data (dialect : Dialect) (c : Config) : ofDatum dialect c.data = .ok c := by
  have hfills : Fills (sectionFields dialect) default
      [("temperature", .mapping c.temperature.data), ("audit", .mapping c.audit.data),
        ("disputes", .mapping c.disputes.data), ("logging", .mapping c.logging.data)] c :=
    .cons rfl (read_field (TemperatureSection.decode_data _ _) _) <|
    .cons rfl (read_field (AuditSection.decode_data _ _) _) <|
    .cons rfl (read_field (DisputeSection.decode_data _ _) _) <|
    .cons rfl (read_field (LoggingSection.decode_data _ _) _) <|
    .nil c
  exact hfills.decodeSection rfl dialect "EngineConfig"

end Integrity.Config
