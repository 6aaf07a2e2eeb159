import Integrity.Config.Basic
import Integrity.Datum
import Integrity.Text.Escape

/-!
# Configurations from data

A section is a mapping from its keys, or a sequence of its values in their order. Keys that are not
known are passed over. The entries of a mapping are read in their order, and what is missing is told
after that. Data formats differ in small ways, which a dialect collects.
-/

namespace Integrity.Config

/-- Where data formats differ. -/
structure Dialect where
  /-- How a number that is not whole is shown. -/
  realText : Number.Binary64 → List Char
  /-- Whether a sequence may be longer than what is read from it. -/
  allowsSurplus : Bool
  /-- Whether a choice is read in the manner of TOML. -/
  tableChoice : Bool

/-- TOML. -/
def Dialect.toml : Dialect :=
  ⟨Number.Binary64.pointed, true, true⟩

/-- JSON. -/
def Dialect.json : Dialect :=
  ⟨Number.Binary64.compact, false, false⟩

/-- Why data is no configuration. -/
inductive DecodeError where
  | invalidType (found : Datum) (expected : String)
  | invalidValue (found : Datum) (expected : String)
  | invalidLength (length : Nat) (expected : String)
  | missing (key : String)
  | unknownPolicy (name : String)
  | choiceForm (description : String)
  | address (cause : Address.Error)

/-- How a piece of data is shown. -/
def shown (dialect : Dialect) : Datum → String
  | .null => "null"
  | .boolean value => s!"boolean `{value}`"
  | .integer value => s!"integer `{value}`"
  | .real value =>
    let text := String.ofList (dialect.realText value)
    s!"floating point `{text}`"
  | .string value => s!"string {Text.quoted value}"
  | .sequence _ | .tables _ => "sequence"
  | .moment _ | .mapping _ => "map"

/-- What is said about data that is no configuration. -/
def DecodeError.message (dialect : Dialect) : DecodeError → String
  | invalidType found expected => s!"invalid type: {shown dialect found}, expected {expected}"
  | invalidValue found expected => s!"invalid value: {shown dialect found}, expected {expected}"
  | invalidLength length expected => s!"invalid length {length}, expected {expected}"
  | missing key => s!"missing field `{key}`"
  | unknownPolicy name =>
    let policies := " or ".intercalate
      (Audit.ReschedulePolicy.all.map fun policy => s!"`{policy.name}`")
    s!"unknown variant `{name}`, expected {policies}"
  | choiceForm description => description
  | address cause => cause.message

/-! ## Values -/

/-- A signed number of 64 bits. -/
def decodeInt64 : Datum → Except DecodeError Int64
  | .integer n =>
    if FitsInt64 n then .ok (Int64.ofInt n)
    else .error (.invalidValue (.integer n) "i64")
  | found => .error (.invalidType found "i64")

/-- A number without a sign that is at most `most`; `expected` is the name of its kind. -/
def decodeNatural (most : Nat) (expected : String) : Datum → Except DecodeError Nat
  | .integer n =>
    if 0 ≤ n ∧ n.toNat ≤ most then .ok n.toNat else .error (.invalidValue (.integer n) expected)
  | found => .error (.invalidType found expected)

/-- A text. -/
def decodeText : Datum → Except DecodeError String
  | .string value => .ok value
  | found => .error (.invalidType found "a string")

/-- An address. -/
def decodeAddress (found : Datum) : Except DecodeError Address := do
  (Address.ofString (← decodeText found)).mapError .address

/-- A list of addresses. -/
def decodeAddresses : Datum → Except DecodeError (List Address)
  | .sequence elements | .tables elements => elements.mapM decodeAddress
  | found => .error (.invalidType found "a sequence")

/-- The name of a file, if there is one. -/
def decodeFile : Datum → Except DecodeError (Option String)
  | .null => .ok none
  | .string value => .ok (some value)
  | found => .error (.invalidType found "path string")

/-- The key under which a moment is found when a mapping is expected. -/
def momentKey : String :=
  "$__toml_private_datetime"

/-- A mapping of texts. -/
def decodeTexts : Datum → Except DecodeError (Table String String)
  | .mapping entries =>
    entries.foldlM (fun table (key, value) => (decodeText value).map (table.insert key)) Table.empty
  | .moment value => .ok (Table.empty.insert momentKey value)
  | found => .error (.invalidType found "a map")

/-- The policy of a name. -/
def policyOfName (name : String) : Except DecodeError Audit.ReschedulePolicy :=
  match Audit.ReschedulePolicy.ofName? name with
  | some policy => .ok policy
  | none => .error (.unknownPolicy name)

/-- The kind of a piece of data, by the names that TOML has for them. -/
def kindName : Datum → String
  | .null => "none"
  | .boolean _ => "boolean"
  | .integer _ => "integer"
  | .real _ => "float"
  | .moment _ => "datetime"
  | .string _ => "string"
  | .sequence _ | .tables _ => "array"
  | .mapping _ => "table"

/-- What follows the name of a choice in a table: an empty table or array. -/
def ensureEmpty : Datum → Except DecodeError Unit
  | .sequence [] | .tables [] | .mapping [] => .ok ()
  | .sequence _ | .mapping _ => .error (.choiceForm "expected empty table")
  | .tables _ => .error (.choiceForm "expected empty array")
  | found => .error (.choiceForm s!"expected table, found {kindName found}")

/-- A policy, in the manner of TOML. -/
def decodePolicyTable : Datum → Except DecodeError Audit.ReschedulePolicy
  | .string name => policyOfName name
  | .mapping [] => .error (.choiceForm "wanted exactly 1 element, found 0 elements")
  | .mapping [(name, value)] => do
    let policy ← policyOfName name
    ensureEmpty value
    return policy
  | .mapping _ => .error (.choiceForm "wanted exactly 1 element, more than 1 element")
  | _ => .error (.choiceForm "wanted string or table")

/-- A policy, in the manner of JSON. -/
def decodePolicyObject : Datum → Except DecodeError Audit.ReschedulePolicy
  | .string name => policyOfName name
  | .mapping [(name, value)] => do
    let policy ← policyOfName name
    match value with
    | .null => return policy
    | found => throw (.invalidType found "unit")
  | .mapping entries => .error (.invalidValue (.mapping entries) "map with a single key")
  | found => .error (.invalidType found "string or map")

/-- A policy. -/
def decodePolicy (dialect : Dialect) (found : Datum) : Except DecodeError Audit.ReschedulePolicy :=
  if dialect.tableChoice then decodePolicyTable found else decodePolicyObject found

/-! ## Sections -/

/-- A part of a section. -/
structure Field (σ : Type) where
  key : String
  isOptional : Bool
  read : Datum → σ → Except DecodeError σ

/-- A part that is read by `decode` and put into a section by `set`. -/
def field {σ α : Type} (key : String) (isOptional : Bool) (decode : Datum → Except DecodeError α)
    (set : α → σ → σ) : Field σ :=
  ⟨key, isOptional, fun found section_ => (decode found).map fun value => set value section_⟩

/-- Reads the entries of a mapping into a section. -/
def readEntries {σ : Type} (fields : List (Field σ)) (start : σ)
    (entries : List (String × Datum)) : Except DecodeError σ :=
  entries.foldlM
    (fun state (key, value) =>
      match fields.find? fun field => field.key == key with
      | some field => field.read value state
      | none => .ok state)
    start

/-- The first part that has to be there and has no entry. -/
def firstMissing {σ : Type} (fields : List (Field σ)) (entries : List (String × Datum)) :
    Option String :=
  (fields.find? fun field =>
    !field.isOptional && !entries.any fun entry => entry.1 == field.key).map Field.key

/-- Reads the elements of a sequence into a section, the first of them at the place `index`. -/
def readElements {σ : Type} (expected : String) (index : Nat) :
    (fields : List (Field σ)) → (state : σ) → (elements : List Datum) → Except DecodeError σ
  | [], state, _ => .ok state
  | field :: fields, state, [] =>
    if field.isOptional then readElements expected (index + 1) fields state []
    else .error (.invalidLength index expected)
  | field :: fields, state, element :: elements => do
    readElements expected (index + 1) fields (← field.read element state) elements

/-- Reads a section. Every part that has to be there replaces what `start` holds. -/
def decodeSection {σ : Type} (dialect : Dialect) (name : String) (fields : List (Field σ))
    (start : σ) (found : Datum) : Except DecodeError σ :=
  let ofEntries (entries : List (String × Datum)) : Except DecodeError σ := do
    let state ← readEntries fields start entries
    match firstMissing fields entries with
    | some key => throw (.missing key)
    | none => return state
  match found with
  | .mapping entries => ofEntries entries
  | .moment _ => ofEntries []
  | .sequence elements | .tables elements => do
    let expected := s!"struct {name} with {fields.length} elements"
    let state ← readElements expected 0 fields start elements
    if fields.length < elements.length ∧ !dialect.allowsSurplus then
      throw (.invalidLength elements.length "fewer elements in array")
    return state
  | found => .error (.invalidType found s!"struct {name}")

/-- The parts of the temperature. -/
def temperatureFields : List (Field TemperatureSection) := [
  field "authority" false decodeAddress fun value t => { t with authority := value },
  field "initial_temperature" false decodeInt64 fun value t => { t with initial := value },
  field "min_bound" false decodeInt64 fun value t => { t with minBound := value },
  field "max_bound" false decodeInt64 fun value t => { t with maxBound := value },
  field "kp" true decodeInt64 fun value t => { t with kp := value },
  field "ki" true decodeInt64 fun value t => { t with ki := value },
  field "kd" true decodeInt64 fun value t => { t with kd := value }]

/-- An amount. -/
def decodeAmount (found : Datum) : Except DecodeError Amount :=
  (decodeNatural maxWord64 "u64" found).map Amount.ofNat

/-- The parts of the audits. -/
def auditFields (dialect : Dialect) : List (Field AuditSection) := [
  field "authority" false decodeAddress fun value a => { a with authority := value },
  field "notifier" false decodeAddress fun value a => { a with notifier := value },
  field "probability_bps" false (decodeNatural 65535 "u16")
    fun value a => { a with probability := UInt16.ofNat value },
  field "penalty_amount" true decodeAmount fun value a => { a with penalty := value },
  field "auditors" true decodeAddresses fun value a => { a with auditors := value },
  field "reschedule_policy" true (decodePolicy dialect) fun value a => { a with policy := value },
  field "block_interval_secs" true (decodeNatural maxWord64 "u64")
    fun value a => { a with blockInterval := UInt64.ofNat value }]

/-- The parts of the disputes. -/
def disputeFields : List (Field DisputeSection) := [
  field "authority" false decodeAddress fun value d => { d with authority := value },
  field "appeal_bond" false decodeAmount fun value d => { d with appealBond := value },
  field "min_jury_size" false (decodeNatural maxWord64 "usize")
    fun value d => { d with minJurySize := UInt64.ofNat value },
  field "resolution_authority" false decodeAddress fun value d => { d with judge := value },
  field "escrow_account" false decodeAddress fun value d => { d with escrowAccount := value }]

/-- The parts of the logging. -/
def loggingFields : List (Field LoggingSection) := [
  field "level" true decodeText fun value l => { l with level := value },
  field "format" true decodeText fun value l => { l with format := value },
  field "file_output" true decodeFile fun value l => { l with file := value },
  field "module_filters" true decodeTexts fun value l => { l with moduleFilters := value }]

/-- A temperature section of which only the gains are known, which are zero. -/
def TemperatureSection.blank : TemperatureSection :=
  { TemperatureSection.default with kp := 0 }

/-- The sections of a configuration. -/
def sectionFields (dialect : Dialect) : List (Field Config) := [
  field "temperature" true
    (decodeSection dialect "TemperatureSection" temperatureFields .blank)
    fun value c => { c with temperature := value },
  field "audit" true
    (decodeSection dialect "AuditSection" (auditFields dialect) .default)
    fun value c => { c with audit := value },
  field "disputes" true
    (decodeSection dialect "DisputeSection" disputeFields .default)
    fun value c => { c with disputes := value },
  field "logging" true
    (decodeSection dialect "LoggingConfig" loggingFields .default)
    fun value c => { c with logging := value }]

/-- Reads a configuration. -/
def ofDatum (dialect : Dialect) (found : Datum) : Except DecodeError Config :=
  decodeSection dialect "EngineConfig" (sectionFields dialect) default found

end Integrity.Config
