import Integrity.Proofs.Event.Fields
import Integrity.Proofs.Json.Values
import Integrity.Proofs.Time.Text

/-! # Events with their members in another order

The members of a record, of its event and of the fields may stand in any order. Fields that stand
before the kind are kept as values until the kind is known, and all but the numbers of 128 bits are
found again among what was kept. -/

namespace Integrity

open Json (Recovers Refuses)

/-! ## Fields that are kept -/

/-- What is found again of a field that was kept. -/
def FieldValue.kept? : FieldValue → Option FieldValue
  | integer _ => none
  | value => some value

theorem FieldValue.kept?_eq (value : FieldValue) :
    value.kept? = if value.kind = .integer then none else some value := by
  cases value <;> rfl

theorem FieldValue.exists_datum {value : FieldValue} (h : value.Fits) (levels : ℕ) :
    ∃ datum, (∀ fuel, Recovers (Json.readValue levels (fuel + 1)) value.write datum) ∧
      value.kind.ofDatum? datum = value.kept? := by
  cases value with
  | integer n =>
    obtain ⟨datum, hdatum⟩ := Json.exists_recovers_readNumberValue h
    exact ⟨datum, fun fuel => Json.recovers_readValue_number levels fuel hdatum, rfl⟩
  | word n =>
    refine ⟨.integer n, fun fuel => ?_, ?_⟩
    · exact Json.recovers_readValue_number levels fuel (n := n) (Json.recovers_readNumberValue h)
    · simp [kind, FieldKind.ofDatum?, kept?]
  | half n =>
    have hn : n.toNat ≤ 65535 := Nat.le_of_lt_succ n.toNat_lt
    refine ⟨.integer n.toNat, fun fuel => ?_, ?_⟩
    · exact Json.recovers_readValue_number levels fuel (n := n.toNat)
        (Json.recovers_readNumberValue (hn.trans (by decide)))
    · simp [kind, FieldKind.ofDatum?, kept?, hn]
  | flag b => exact ⟨.boolean b, fun fuel => Json.recovers_readValue_flag levels fuel b, rfl⟩
  | text s => exact ⟨.string s, fun fuel => Json.recovers_readValue_text levels fuel s, rfl⟩
  | address a =>
    refine ⟨.string (String.ofList a.toText), fun fuel => ?_, ?_⟩
    · have hread := Json.recovers_readValue_text levels fuel (String.ofList a.toText)
      rwa [String.toList_ofList] at hread
    · rw [kind, FieldKind.ofDatum?, Address.ofString_ofList_toText]
      rfl
  | role r =>
    refine ⟨.string r.name, fun fuel => Json.recovers_readValue_text levels fuel r.name, ?_⟩
    cases r <;> rfl
  | subsystem s =>
    refine ⟨.string s.name, fun fuel => Json.recovers_readValue_text levels fuel s.name, ?_⟩
    cases s <;> rfl

/-- A field and the member that is kept of it. -/
def IsFieldOf (entry : String × FieldValue) (member : String × Datum) : Prop :=
  entry.1 = member.1 ∧ entry.2.kind.ofDatum? member.2 = entry.2.kept?

theorem exists_kept {entries : List (String × FieldValue)} (h : ∀ entry ∈ entries, entry.2.Fits)
    (levels : ℕ) :
    ∃ members : List (String × Datum),
      List.Forall₂ (Json.IsKept levels) (Event.writeFields entries) members ∧
        List.Forall₂ IsFieldOf entries members := by
  induction entries with
  | nil => exact ⟨[], .nil, .nil⟩
  | cons entry rest ih =>
    obtain ⟨hentry, hrest⟩ := List.forall_mem_cons.mp h
    obtain ⟨members, hkept, hfields⟩ := ih hrest
    obtain ⟨datum, hdatum, hfound⟩ := FieldValue.exists_datum hentry levels
    exact ⟨(entry.1, datum) :: members, .cons ⟨rfl, hdatum⟩ hkept, .cons ⟨rfl, hfound⟩ hfields⟩

/-- The fields are collected one after the other, up to the first number of 128 bits. -/
theorem EventKind.collect?_eq {kind : EventKind} {found entries : List (String × FieldValue)}
    {members : List (String × Datum)} (h : List.Forall₂ IsFieldOf entries members)
    (hfields : ∀ entry ∈ entries, lookupEntry entry.1 kind.fields = some entry.2.kind)
    (hnodup : ((found ++ entries).map Prod.fst).Nodup) :
    kind.collect? found members =
      if FieldKind.integer ∈ entries.map (fun entry => entry.2.kind) then none
      else some (found ++ entries) := by
  induction h generalizing found with
  | nil => simp [collect?]
  | @cons entry member entries members hentry _ ih =>
    obtain ⟨key, value⟩ := entry
    obtain ⟨rfl, hvalue⟩ := hentry
    obtain ⟨hfield, hrest⟩ := List.forall_mem_cons.mp hfields
    have hnew : member.1 ∉ found.map Prod.fst := by
      rw [List.map_append, List.map_cons] at hnodup
      intro hmem
      exact (List.nodup_append.mp hnodup).2.2 _ hmem _ List.mem_cons_self rfl
    have hnext : ((found ++ [(member.1, value)] ++ entries).map Prod.fst).Nodup := by
      rwa [List.append_assoc]
    rw [collect?, hfield]
    dsimp only
    rw [lookupEntry_of_not_mem hnew, hvalue, FieldValue.kept?_eq]
    by_cases hinteger : value.kind = .integer
    · simp [hinteger]
    · rw [if_neg hinteger]
      show kind.collect? (insertEntry member.1 value found) members = _
      rw [insertEntry_of_not_mem hnew, ih hrest hnext, List.append_assoc, List.map_cons]
      simp only [List.mem_cons, Ne.symm hinteger, false_or, List.singleton_append]

/-! ## Events -/

namespace Event

/-- Whether an event has numbers of 128 bits. -/
def HasIntegers (event : Event) : Prop :=
  FieldKind.integer ∈ event.kind.fields.map Prod.snd

instance (event : Event) : Decidable event.HasIntegers :=
  inferInstanceAs (Decidable (_ ∈ _))

variable {event : Event}

theorem lookupEntry_fields {entry : String × FieldValue} (h : entry ∈ event.entries) :
    lookupEntry entry.1 event.kind.fields = some entry.2.kind := by
  rw [fields_eq_map_entries, lookupEntry_map, lookupEntry_of_mem event.nodup_entries h]
  rfl

/-- An event is found again among the fields that were kept, unless it has numbers of 128 bits. -/
theorem ofDatum?_mapping {entries : List (String × FieldValue)}
    (hperm : entries.Perm event.entries) (hfields : event.kind.fields.isEmpty = false)
    {members : List (String × Datum)} (h : List.Forall₂ IsFieldOf entries members) :
    event.kind.ofDatum? (.mapping members) = if event.HasIntegers then none else some event := by
  have hintegers : FieldKind.integer ∈ entries.map (fun entry => entry.2.kind) ↔
      event.HasIntegers := by
    rw [HasIntegers, fields_eq_map_entries, List.map_map]
    exact (hperm.map _).mem_iff
  have hlookup : ∀ entry ∈ entries, lookupEntry entry.1 event.kind.fields = some entry.2.kind :=
    fun entry hentry => lookupEntry_fields (hperm.mem_iff.mp hentry)
  have hnodup : (([] ++ entries).map Prod.fst).Nodup :=
    (hperm.map Prod.fst).nodup_iff.mpr event.nodup_entries
  rw [EventKind.ofDatum?, hfields]
  show ((event.kind.collect? [] members).bind event.kind.gather?) = _
  rw [EventKind.collect?_eq h hlookup hnodup]
  by_cases hkept : event.HasIntegers
  · rw [if_pos (hintegers.mpr hkept), if_pos hkept]
    rfl
  · rw [if_neg fun hmem => hkept (hintegers.mp hmem), if_neg hkept]
    exact gather?_of_perm hperm

/-- An order for the members of an event: of its fields, and of the kind and the fields. -/
structure Arrangement (event : Event) where
  fields : List (String × FieldValue)
  fields_perm : fields.Perm event.entries
  dataFirst : Bool

namespace Arrangement

/-- The members of the event in their order. -/
def members (a : event.Arrangement) : List (String × List Char) :=
  let kind := ("type", Json.writeText event.kind.name.toList)
  let data := ("data", Json.writeObject (writeFields a.fields))
  if event.kind.fields.isEmpty then [kind]
  else if a.dataFirst then [data, kind]
  else [kind, data]

/-- The event as it is written in that order. -/
def text (a : event.Arrangement) : List Char :=
  Json.writeObject a.members

/-- The order in which events are written. -/
def usual (event : Event) : event.Arrangement :=
  ⟨event.entries, .refl event.entries, false⟩

theorem text_usual (event : Event) : (usual event).text = event.write := by
  rw [text, members, write, members_eq_writeFields]
  split <;> rfl

/-- Numbers of 128 bits come before the kind that tells that they are such. -/
def IsRefused (a : event.Arrangement) : Prop :=
  a.dataFirst = true ∧ event.HasIntegers

instance (a : event.Arrangement) : Decidable a.IsRefused :=
  inferInstanceAs (Decidable (_ ∧ _))

section Reading

variable {levels fuel : ℕ}

variable (levels) in
theorem recovers_kept (h : event.Fits) (a : event.Arrangement) (hfuel : 6 < fuel) :
    ∃ members, List.Forall₂ IsFieldOf a.fields members ∧
      Recovers (readMember (levels + 1) fuel .nothing "data")
        (':' :: Json.writeObject (writeFields a.fields)) (.dataOnly (.mapping members)) := by
  have hfits : ∀ entry ∈ a.fields, entry.2.Fits := by
    intro entry hentry
    apply h
    rw [← event.values_entries]
    exact List.mem_map_of_mem (a.fields_perm.mem_iff.mp hentry)
  obtain ⟨members, hkept, hfields⟩ := exists_kept hfits levels
  have hlength := length_writeFields_le a.fields_perm
  refine ⟨members, hfields, fun rest hrest => ?_⟩
  show (Json.readValue (levels + 1) fuel (_ ++ rest) >>= _) = _
  rw [Json.recovers_readValue_object hkept (by omega) rest hrest]
  rfl

/-- The kind comes last, and with it what is found again of the fields that were kept. -/
theorem readMember_type_last (kind : EventKind) (datum : Datum) {rest : List Char}
    (hrest : Json.Closes rest) :
    readMember levels fuel (.dataOnly datum) "type"
        (':' :: (Json.writeText kind.name.toList ++ rest)) =
      (Json.required (kind.ofDatum? datum)).map fun event => (.whole event, rest) := by
  show (Json.readChoice EventKind.ofName? (Json.writeText kind.name.toList ++ rest) >>= _) = _
  rw [Json.recovers_readChoice (ofName?_name kind) rest hrest, Json.ok_bind]
  show (Json.required (kind.ofDatum? datum) >>= _) = _
  cases Json.required (kind.ofDatum? datum) <;> rfl

/-! The members of an event, by their order. -/

theorem folds_alone (a : event.Arrangement) (hfields : event.kind.fields.isEmpty = true) :
    Json.Folds (readMember levels fuel) .nothing a.members (.ok (.kindOnly event.kind)) := by
  have hmembers : a.members = [("type", Json.writeText event.kind.name.toList)] := by
    rw [members, hfields]
    rfl
  rw [hmembers]
  exact .cons (recovers_type levels fuel event.kind) (.nil _)

theorem folds_kindFirst (h : event.Fits) (a : event.Arrangement) (hfuel : 6 < fuel)
    (hfields : event.kind.fields.isEmpty = false) (hfirst : a.dataFirst = false) :
    Json.Folds (readMember levels fuel) .nothing a.members (.ok (.whole event)) := by
  have hmembers : a.members = [("type", Json.writeText event.kind.name.toList),
      ("data", Json.writeObject (writeFields a.fields))] := by
    rw [members, hfields, hfirst]
    rfl
  have hdata := recovers_data levels fuel h hfields a.fields_perm (by omega)
  rw [hmembers]
  exact .cons (recovers_type levels fuel event.kind) (.cons hdata (.nil _))

theorem folds_dataFirst (h : event.Fits) (a : event.Arrangement) (hfuel : 6 < fuel)
    (hfields : event.kind.fields.isEmpty = false) (hfirst : a.dataFirst = true) :
    Json.Folds (readMember (levels + 1) fuel) .nothing a.members
      (if event.HasIntegers then .error .mismatched else .ok (.whole event)) := by
  have hmembers : a.members = [("data", Json.writeObject (writeFields a.fields)),
      ("type", Json.writeText event.kind.name.toList)] := by
    rw [members, hfields, hfirst]
    rfl
  obtain ⟨kept, hkept, hdata⟩ := recovers_kept levels h a hfuel
  have hfound := ofDatum?_mapping a.fields_perm hfields hkept
  rw [hmembers]
  refine Json.Folds.cons hdata ?_
  by_cases hintegers : event.HasIntegers
  · rw [if_pos hintegers] at hfound ⊢
    refine Json.Folds.stop fun rest hrest => ?_
    rw [List.cons_append, readMember_type_last event.kind _ hrest, hfound]
    rfl
  · rw [if_neg hintegers] at hfound ⊢
    refine Json.Folds.cons (fun rest hrest => ?_) (.nil (Known.whole event))
    rw [List.cons_append, readMember_type_last event.kind _ hrest, hfound]
    rfl

theorem event_kindOnly (hfields : event.kind.fields.isEmpty = true) :
    (Known.kindOnly event.kind).event = .ok event := by
  have hentries : event.entries = [] := by
    rw [entries, List.isEmpty_iff.mp hfields]
    rfl
  have hgather := event.gather?_entries
  rw [hentries] at hgather
  rw [Known.event, hgather]
  rfl

theorem not_hasIntegers_of_isEmpty (h : event.kind.fields.isEmpty = true) :
    ¬event.HasIntegers := by
  rw [HasIntegers, List.isEmpty_iff.mp h]
  exact List.not_mem_nil

variable (levels) in
/-- What the members come to, whatever their order. -/
theorem folds_members (h : event.Fits) (a : event.Arrangement) (hfuel : 6 < fuel) :
    ∃ outcome, Json.Folds (readMember (levels + 1) fuel) .nothing a.members outcome ∧
      outcome.bind Known.event =
        if a.IsRefused then .error .mismatched else .ok event := by
  cases hfields : event.kind.fields.isEmpty with
  | true =>
    have haccepted : ¬a.IsRefused := fun hrefused => not_hasIntegers_of_isEmpty hfields hrefused.2
    rw [if_neg haccepted]
    exact ⟨_, a.folds_alone hfields, event_kindOnly hfields⟩
  | false =>
    cases hfirst : a.dataFirst with
    | false =>
      have haccepted : ¬a.IsRefused := by
        rw [IsRefused, hfirst]
        exact fun hrefused => Bool.noConfusion hrefused.1
      rw [if_neg haccepted]
      exact ⟨_, folds_kindFirst h a hfuel hfields hfirst, rfl⟩
    | true =>
      have hrefused : a.IsRefused ↔ event.HasIntegers := and_iff_right hfirst
      refine ⟨_, folds_dataFirst h a hfuel hfields hfirst, ?_⟩
      simp only [hrefused]
      split <;> rfl

theorem length_members_le (a : event.Arrangement) : a.members.length ≤ 2 := by
  rw [members]
  split
  · exact Nat.le_succ 1
  · split <;> exact Nat.le_refl 2

theorem read_text (h : event.Fits) (a : event.Arrangement) (hfuel : 6 < fuel)
    (rest : List Char) :
    read (levels + 1) fuel (a.text ++ rest) =
      if a.IsRefused then .error .mismatched else .ok (event, rest) := by
  have hlength : a.members.length < fuel := by
    have hle := a.length_members_le
    omega
  obtain ⟨outcome, hfolds, houtcome⟩ := folds_members levels h a hfuel
  obtain ⟨text, hshape, hread⟩ := hfolds.read_writeObject hlength rest
  have hevent : read (levels + 1) fuel (a.text ++ rest) =
      (outcome.bind Known.event).map fun event => (event, rest) := by
    rw [Arrangement.text, read, hshape]
    show (Json.foldMembers (readMember (levels + 1) fuel) fuel true .nothing text >>= _) = _
    rw [hread]
    cases outcome with
    | error => rfl
    | ok known =>
      show (known.event >>= _) = known.event.map _
      cases known.event <;> rfl
  rw [hevent, houtcome]
  split <;> rfl

end Reading

end Arrangement

end Event

/-! ## Records -/

namespace EventRecord

/-- The numbers of a record fit their fields, and its moment is in the calendar. -/
structure IsValid (record : EventRecord) : Prop where
  sequence : record.sequence ≤ maxWord64
  timestamp : record.timestamp.isValid = true
  event : record.event.Fits

/-- The members of a record. -/
inductive Part where
  | sequence
  | timestamp
  | event
deriving DecidableEq

/-- The members of a record in the order in which they are written. -/
def Part.all : List Part :=
  [sequence, timestamp, event]

/-- An order for the members of a record and of its event. -/
structure Arrangement (record : EventRecord) where
  event : record.event.Arrangement
  parts : List Part
  parts_perm : parts.Perm Part.all

variable {record : EventRecord}

namespace Arrangement

/-- A member of the record as it is written. -/
def member (a : record.Arrangement) : Part → String × List Char
  | .sequence => ("sequence", Numeral.ofNat record.sequence)
  | .timestamp => ("timestamp", Json.writeText record.timestamp.toText)
  | .event => ("event", a.event.text)

/-- The record as it is written in that order. -/
def text (a : record.Arrangement) : List Char :=
  Json.writeObject (a.parts.map a.member)

/-- The order in which records are written. -/
def usual (record : EventRecord) : record.Arrangement :=
  ⟨.usual record.event, Part.all, .refl Part.all⟩

theorem not_isRefused_usual : ¬(usual record).event.IsRefused :=
  fun hrefused => Bool.noConfusion hrefused.1

theorem text_usual (record : EventRecord) : (usual record).text = record.write := by
  show Json.writeObject [_, _, ("event", (Event.Arrangement.usual record.event).text)] = _
  rw [Event.Arrangement.text_usual]
  rfl

end Arrangement

/-- What is known of a record when some of its members have been read. -/
def knownFrom (record : EventRecord) (done : List Part) : Known where
  sequence := if .sequence ∈ done then some record.sequence else none
  timestamp := if .timestamp ∈ done then some record.timestamp else none
  event := if .event ∈ done then some record.event else none

theorem recovers_timestamp {t : Timestamp} (h : t.isValid = true) :
    Recovers Timestamp.read (Json.writeText t.toText) t := by
  intro rest _
  rw [Timestamp.read, Json.readText_writeText, Json.ok_bind]
  dsimp only
  rw [String.toList_ofList, Timestamp.ofText_toText h]
  rfl

section Members

variable {fuel : ℕ} {known : Known} {text : List Char}

theorem readMember_sequence (h : known.sequence = none) :
    readMember fuel known "sequence" (':' :: text) =
      (Json.readNatural maxWord64 text).map fun (sequence, rest) =>
        ({ known with sequence := some sequence }, rest) := by
  rw [readMember, if_pos rfl, h]
  show (Json.readNatural maxWord64 text >>= _) = _
  cases Json.readNatural maxWord64 text <;> rfl

theorem readMember_timestamp (h : known.timestamp = none) :
    readMember fuel known "timestamp" (':' :: text) =
      (Timestamp.read text).map fun (timestamp, rest) =>
        ({ known with timestamp := some timestamp }, rest) := by
  rw [readMember, if_neg (by decide), if_pos rfl, h]
  show (Timestamp.read text >>= _) = _
  cases Timestamp.read text <;> rfl

theorem readMember_event (h : known.event = none) :
    readMember fuel known "event" (':' :: text) =
      (Event.read eventLevels fuel text).map fun (event, rest) =>
        ({ known with event := some event }, rest) := by
  rw [readMember, if_neg (by decide), if_neg (by decide), if_pos rfl, h]
  show (Event.read eventLevels fuel text >>= _) = _
  cases Event.read eventLevels fuel text <;> rfl

end Members

namespace Arrangement

variable {fuel : ℕ} {done : List Part}

theorem read_event (h : record.IsValid) (a : record.Arrangement) (hfuel : 6 < fuel)
    (rest : List Char) :
    Event.read eventLevels fuel (a.event.text ++ rest) =
      if a.event.IsRefused then .error .mismatched else .ok (record.event, rest) :=
  Event.Arrangement.read_text h.event a.event hfuel rest

/-- A member that has not been read yet is read back, in whatever place it stands. -/
theorem recovers_member (h : record.IsValid) (a : record.Arrangement) (hfuel : 6 < fuel)
    {part : Part} (hnew : part ∉ done) (haccepted : part = .event → ¬a.event.IsRefused) :
    Recovers (readMember fuel (record.knownFrom done) (a.member part).1)
      (':' :: (a.member part).2) (record.knownFrom (done ++ [part])) := by
  intro rest hrest
  cases part with
  | sequence =>
    have hread := Json.recovers_readNatural (Nat.le_refl _) h.sequence rest hrest
    show readMember fuel _ "sequence" (':' :: (Numeral.ofNat record.sequence ++ rest)) = _
    rw [readMember_sequence (if_neg hnew), hread]
    simp [knownFrom, Except.map]
  | timestamp =>
    have hread := recovers_timestamp h.timestamp rest hrest
    show readMember fuel _ "timestamp"
      (':' :: (Json.writeText record.timestamp.toText ++ rest)) = _
    rw [readMember_timestamp (if_neg hnew), hread]
    simp [knownFrom, Except.map]
  | event =>
    show readMember fuel _ "event" (':' :: (a.event.text ++ rest)) = _
    rw [readMember_event (if_neg hnew), read_event h a hfuel, if_neg (haccepted rfl)]
    simp [knownFrom, Except.map]

theorem refuses_event (h : record.IsValid) (a : record.Arrangement) (hfuel : 6 < fuel)
    (hnew : .event ∉ done) (hrefused : a.event.IsRefused) :
    Refuses (readMember fuel (record.knownFrom done) "event") (':' :: a.event.text)
      .mismatched := by
  intro rest _
  show readMember fuel _ "event" (':' :: (a.event.text ++ rest)) = _
  rw [readMember_event (if_neg hnew), read_event h a hfuel, if_pos hrefused]
  rfl

/-- The members are read one after the other, up to an event that is refused. -/
theorem folds_parts (h : record.IsValid) (a : record.Arrangement) (hfuel : 6 < fuel)
    {parts : List Part} (hnodup : (done ++ parts).Nodup)
    (hevent : a.event.IsRefused → .event ∈ parts) :
    Json.Folds (readMember fuel) (record.knownFrom done) (parts.map a.member)
      (if a.event.IsRefused then .error .mismatched
        else .ok (record.knownFrom (done ++ parts))) := by
  induction parts generalizing done with
  | nil =>
    rw [if_neg fun hrefused => List.not_mem_nil (hevent hrefused), List.append_nil]
    exact .nil _
  | cons part parts ih =>
    have hnew : part ∉ done := fun hmem =>
      (List.nodup_append.mp hnodup).2.2 part hmem part List.mem_cons_self rfl
    rw [← List.singleton_append, ← List.append_assoc] at hnodup
    by_cases hstop : part = .event ∧ a.event.IsRefused
    · obtain ⟨rfl, hrefused⟩ := hstop
      rw [if_pos hrefused]
      exact .stop (refuses_event h a hfuel hnew hrefused)
    · have hlater : a.event.IsRefused → .event ∈ parts := fun hrefused =>
        (List.mem_cons.mp (hevent hrefused)).resolve_left fun heq => hstop ⟨heq.symm, hrefused⟩
      have hrest := ih hnodup hlater
      rw [List.append_assoc, List.singleton_append] at hrest
      exact .cons (recovers_member h a hfuel hnew fun heq hrefused => hstop ⟨heq, hrefused⟩) hrest

theorem mem_parts (a : record.Arrangement) (part : Part) : part ∈ a.parts :=
  a.parts_perm.mem_iff.mpr (by cases part <;> decide)

theorem knownFrom_parts (a : record.Arrangement) :
    record.knownFrom a.parts =
      ⟨some record.sequence, some record.timestamp, some record.event⟩ := by
  simp only [knownFrom, a.mem_parts, if_true]

theorem lt_fuelFor_text (a : record.Arrangement) : 6 < Json.fuelFor a.text := by
  have hparts := List.ne_nil_of_mem (a.mem_parts .event)
  obtain ⟨part, parts, hparts⟩ := List.exists_cons_of_ne_nil hparts
  rw [text, hparts]
  exact Json.lt_fuelFor_writeObject_cons _ _

/-- A record is read from its members in any order, unless its event is refused in its own. -/
theorem ofText_text (a : record.Arrangement) (h : record.IsValid) :
    ofText a.text = if a.event.IsRefused then .error .mismatched else .ok record := by
  have hfuel := a.lt_fuelFor_text
  have hnodup : ([] ++ a.parts).Nodup := a.parts_perm.nodup_iff.mpr (by decide)
  have hlength : (a.parts.map a.member).length < Json.fuelFor a.text := by
    have hthree : a.parts.length = 3 := a.parts_perm.length_eq
    rw [List.length_map]
    omega
  have hfolds := folds_parts h a hfuel hnodup fun _ => a.mem_parts .event
  rw [List.nil_append, knownFrom_parts] at hfolds
  obtain ⟨text, hshape, hread⟩ := hfolds.read_writeObject hlength []
  rw [List.append_nil] at hshape
  have hrecord : read (Json.fuelFor a.text) a.text =
      if a.event.IsRefused then .error .mismatched else .ok (record, []) := by
    generalize Json.fuelFor a.text = fuel at hread
    rw [Arrangement.text, hshape, read]
    show (Json.foldMembers (readMember fuel) fuel true (record.knownFrom []) text >>= _) = _
    rw [hread]
    split <;> rfl
  rw [ofText, hrecord]
  split <;> rfl

end Arrangement

theorem IsValid.ofText_write (h : record.IsValid) : ofText record.write = .ok record := by
  have hread := (Arrangement.usual record).ofText_text h
  rwa [Arrangement.text_usual, if_neg Arrangement.not_isRefused_usual] at hread

/-- The order of the members does not matter, of the record, of its event and of the fields, except
that numbers of 128 bits are not found again among fields that come before the kind: such a record
is refused, whatever its numbers are. -/
theorem arrangement_read_iff (h : record.IsValid) (a : record.Arrangement) :
    ofText record.write = .ok record ∧
      (ofText a.text = ofText record.write ↔
        ¬(a.event.dataFirst = true ∧ record.event.HasIntegers)) ∧
      (a.event.dataFirst = true → record.event.HasIntegers →
        ofText a.text = .error .mismatched) := by
  have harranged := a.ofText_text h
  refine ⟨h.ofText_write, ?_, fun hfirst hintegers => ?_⟩
  · rw [h.ofText_write, harranged]
    refine ⟨fun heq (hrefused : a.event.IsRefused) => ?_, fun haccepted => if_neg haccepted⟩
    rw [if_pos hrefused] at heq
    cases heq
  · rwa [if_pos ⟨hfirst, hintegers⟩] at harranged

/-- Everything the other way round, in the first year of the calendar; and a control step with the
least and the largest number of 128 bits, which is read behind its kind only. -/
theorem arrangement_read_iff_reversed :
    let first : Timestamp := ⟨⟨-262143, 1, 1⟩, 0, 0, 0, 1⟩
    let verdict : EventRecord :=
      ⟨maxWord64, first, .auditRecorded ⟨7⟩ Address.null false "\"no\"\n\\\x00 😀"⟩
    let tick : EventRecord :=
      ⟨0, first, .temperatureTicked Temperature.minWord128 Temperature.maxWord128 0 (-1) 1⟩
    let reversed (record : EventRecord) (dataFirst : Bool) : record.Arrangement :=
      ⟨⟨record.event.entries.reverse, List.reverse_perm _, dataFirst⟩,
        [.event, .timestamp, .sequence], by decide⟩
    verdict.IsValid ∧ (reversed verdict true).text ≠ verdict.write ∧
      ofText verdict.write = .ok verdict ∧
      ofText (reversed verdict true).text = ofText verdict.write ∧
      tick.IsValid ∧ ofText (reversed tick false).text = ofText tick.write ∧
      ofText (reversed tick true).text = .error .mismatched := by
  intro first verdict tick reversed
  have hverdict : verdict.IsValid := by
    refine ⟨Nat.le_refl _, by decide, fun value hvalue => ?_⟩
    simp only [verdict, Event.values, List.mem_cons, List.not_mem_nil, or_false] at hvalue
    rcases hvalue with rfl | rfl | rfl | rfl
    · exact of_decide_eq_true (p := (7 : UInt64).toNat ≤ maxWord64) rfl
    all_goals trivial
  have htick : tick.IsValid := by
    refine ⟨by decide, by decide, fun value hvalue => ?_⟩
    simp only [tick, Event.values, List.mem_cons, List.not_mem_nil, or_false] at hvalue
    rcases hvalue with rfl | rfl | rfl | rfl | rfl <;> simp only [FieldValue.Fits] <;> decide
  have hother : (reversed verdict true).text ≠ verdict.write := by
    intro heq
    have hthird : (reversed verdict true).text[2]? = verdict.write[2]? := by rw [heq]
    exact absurd hthird (by decide)
  have hnone : ¬verdict.event.HasIntegers := by decide
  have hintegers : tick.event.HasIntegers := by decide
  obtain ⟨husual, hverdict_iff, -⟩ := arrangement_read_iff hverdict (reversed verdict true)
  obtain ⟨-, htick_iff, -⟩ := arrangement_read_iff htick (reversed tick false)
  obtain ⟨-, -, hrefused⟩ := arrangement_read_iff htick (reversed tick true)
  exact ⟨hverdict, hother, husual, hverdict_iff.mpr fun hkept => hnone hkept.2, htick,
    htick_iff.mpr fun hkept => Bool.noConfusion hkept.1, hrefused rfl hintegers⟩

/-- Bounds that come before the kind are refused. -/
theorem arrangement_refused_bounds :
    let leap : Timestamp := ⟨⟨2024, 2, 29⟩, 12, 34, 56, 0⟩
    let record : EventRecord := ⟨0, leap, .boundsUpdated 1 2⟩
    let a : record.Arrangement := ⟨⟨record.event.entries, .refl _, true⟩, Part.all, .refl _⟩
    record.IsValid ∧ ofText record.write = .ok record ∧ ofText a.text = .error .mismatched := by
  intro leap record a
  have hvalid : record.IsValid := by
    refine ⟨by decide, by decide, fun value hvalue => ?_⟩
    simp only [record, Event.values, List.mem_cons, List.not_mem_nil, or_false] at hvalue
    rcases hvalue with rfl | rfl <;> simp only [FieldValue.Fits] <;> decide
  have hrefused : a.event.IsRefused := by decide
  have harranged := a.ofText_text hvalid
  rw [if_pos hrefused] at harranged
  exact ⟨hvalid, hvalid.ofText_write, harranged⟩

end EventRecord

end Integrity
