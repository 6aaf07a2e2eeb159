import Integrity.Event.Reader
import Integrity.Event.Writer
import Integrity.Proofs.Entries
import Integrity.Proofs.Json.Recovery
import Integrity.Proofs.Text.Address

/-! # The fields of an event are read back

A field is read back by its kind, and the fields of an event one after the other, in whatever order
they stand. -/

namespace Integrity

open Json (ReadError Recovers)

/-! ## Fields -/

/-- Numbers fit the width of the field they stand in. -/
def FieldValue.Fits : FieldValue → Prop
  | integer n => Temperature.FitsWord128 n
  | word n => n ≤ maxWord64
  | _ => True

theorem Json.Recovers.map {α β : Type} {read : List Char → Except ReadError (α × List Char)}
    {written : List Char} {value : α} (h : Recovers read written value) (f : α → β) :
    Recovers (fun text => (read text).map fun (a, rest) => (f a, rest)) written (f value) := by
  intro rest hrest
  dsimp only
  rw [h rest hrest]
  rfl

theorem Json.recovers_readChoice {α : Type} {choose : String → Option α} {name : String}
    {choice : α} (h : choose name = some choice) :
    Recovers (readChoice choose) (writeText name.toList) choice := by
  intro rest _
  have hread := readText_writeText name.toList rest
  rw [String.ofList_toList] at hread
  show (readText (writeText name.toList ++ rest) >>= _) = _
  rw [hread]
  show (chosen choose name >>= _) = _
  rw [chosen, h]
  rfl

theorem FieldValue.recovers {value : FieldValue} (h : value.Fits) :
    Recovers value.kind.read value.write value := by
  cases value with
  | integer n => exact (Json.recovers_readInteger h).map FieldValue.integer
  | word n => exact (Json.recovers_readNatural (Nat.le_refl _) h).map FieldValue.word
  | half n =>
    have hn : n.toNat ≤ 65535 := Nat.le_of_lt_succ n.toNat_lt
    have hread := (Json.recovers_readNatural (by decide) hn).map fun n =>
      FieldValue.half (UInt16.ofNat n)
    rw [UInt16.ofNat_toNat] at hread
    exact hread
  | flag b => exact (Json.recovers_readFlag b).map FieldValue.flag
  | text s => exact (Json.recovers_readText s).map FieldValue.text
  | address a =>
    intro rest _
    have haddress : Json.required (Address.ofString (String.ofList a.toText)).toOption = .ok a := by
      rw [Address.ofString_ofList_toText]
      rfl
    have hread := Json.readText_writeText a.toText rest
    rw [kind, FieldKind.read, write, hread, Json.ok_bind]
    dsimp only
    rw [haddress, Json.ok_bind]
    rfl
  | role r =>
    have hname : Role.ofName? r.name = some r := by cases r <;> rfl
    exact (Json.recovers_readChoice hname).map FieldValue.role
  | subsystem s =>
    have hname : Subsystem.ofName? s.name = some s := by cases s <;> rfl
    exact (Json.recovers_readChoice hname).map FieldValue.subsystem

/-! ## Events -/

namespace Event

/-- The fields of an event with their values. -/
def entries (event : Event) : List (String × FieldValue) :=
  (event.kind.fields.map Prod.fst).zip event.values

theorem length_values (event : Event) : event.values.length = event.kind.fields.length := by
  have h := congrArg List.length event.map_kind_values
  rwa [List.length_map, List.length_map] at h

theorem keys_entries (event : Event) :
    event.entries.map Prod.fst = event.kind.fields.map Prod.fst :=
  List.map_fst_zip (Nat.le_of_eq (by rw [List.length_map, length_values]))

theorem values_entries (event : Event) : event.entries.map Prod.snd = event.values :=
  List.map_snd_zip (Nat.le_of_eq (by rw [List.length_map, length_values]))

/-- Fields with their values as they are written. -/
def writeFields (entries : List (String × FieldValue)) : List (String × List Char) :=
  entries.map fun entry => (entry.1, entry.2.write)

theorem members_eq_writeFields (event : Event) : event.members = writeFields event.entries := by
  rw [members, List.zip_map_right]
  rfl

theorem fields_eq_map_entries (event : Event) :
    event.kind.fields = event.entries.map fun entry => (entry.1, entry.2.kind) := by
  cases event <;> rfl

end Event

theorem EventKind.nodup_fields (kind : EventKind) : (kind.fields.map Prod.fst).Nodup := by
  cases kind <;> decide

theorem EventKind.length_fields_le (kind : EventKind) : kind.fields.length ≤ 5 := by
  cases kind <;> decide

namespace Event

variable {event : Event}

theorem nodup_entries (event : Event) : (event.entries.map Prod.fst).Nodup := by
  rw [keys_entries]
  exact event.kind.nodup_fields

/-- Every number of the event fits its field. -/
def Fits (event : Event) : Prop :=
  ∀ value ∈ event.values, value.Fits

/-- A field that has not been read yet is read back and added to those that have. -/
theorem recovers_readMember (h : event.Fits) {fuel : Nat} {found : List (String × FieldValue)}
    {key : String} {value : FieldValue} {rest : List (String × FieldValue)}
    (hentries : (found ++ (key, value) :: rest).Perm event.entries) :
    Recovers (event.kind.readMember fuel found key) (':' :: value.write)
      (found ++ [(key, value)]) := by
  have hnodup : ((found ++ (key, value) :: rest).map Prod.fst).Nodup :=
    (hentries.map Prod.fst).nodup_iff.mpr event.nodup_entries
  have hentry : (key, value) ∈ event.entries := hentries.mem_iff.mp (by simp)
  have hvalue : value ∈ event.values := by
    rw [← event.values_entries]
    exact List.mem_map_of_mem hentry
  have hfield : lookupEntry key event.kind.fields = some value.kind := by
    rw [fields_eq_map_entries, lookupEntry_map, lookupEntry_of_mem event.nodup_entries hentry]
    rfl
  have hnew : key ∉ found.map Prod.fst := by
    rw [List.map_append, List.map_cons] at hnodup
    exact fun hmem => (List.nodup_append.mp hnodup).2.2 key hmem key List.mem_cons_self rfl
  have hunread : (lookupEntry key found).isSome = false := by
    rw [lookupEntry_of_not_mem hnew]
    rfl
  intro after hafter
  rw [EventKind.readMember, hfield, hunread]
  show (value.kind.read (value.write ++ after) >>= _) = _
  rw [FieldValue.recovers (h value hvalue) after hafter]
  show Except.ok (insertEntry key value found, after) = _
  rw [insertEntry_of_not_mem hnew]

/-- The fields may come in any order. -/
theorem folds_members (h : event.Fits) {entries : List (String × FieldValue)}
    (hperm : entries.Perm event.entries) (fuel : Nat) :
    Json.Folds (event.kind.readMember fuel) [] (writeFields entries) (.ok entries) := by
  have hall : ∀ found rest, found ++ rest = entries →
      Json.Folds (event.kind.readMember fuel) found (writeFields rest) (.ok entries) := by
    intro found rest heq
    induction rest generalizing found with
    | nil =>
      rw [← heq, List.append_nil]
      exact .nil found
    | cons entry rest ih =>
      exact .cons (recovers_readMember h (heq ▸ hperm)) (ih (found ++ [entry]) (by simp [← heq]))
  exact hall [] entries rfl

theorem ofValues?_values (event : Event) : ofValues? event.kind event.values = some event := by
  have hamount (a : Amount) : Amount.ofNat a.units = a := by
    rw [Amount.ext_iff]
    exact Nat.min_eq_left a.units_le
  have hjob (job : JobId) : JobId.ofNat job.toNat = job := by
    simp [JobId.ofNat, JobId.toNat]
  cases event with
  | penaltyAmountUpdated amount =>
    exact congrArg (fun amount => some (penaltyAmountUpdated amount)) (hamount amount)
  | appealBondUpdated bond =>
    exact congrArg (fun bond => some (appealBondUpdated bond)) (hamount bond)
  | auditScheduled job agent seed replacedExisting =>
    exact congrArg (fun job => some (auditScheduled job agent seed replacedExisting)) (hjob job)
  | auditRecorded job auditor passed details =>
    exact congrArg (fun job => some (auditRecorded job auditor passed details)) (hjob job)
  | agentPenalized job agent amount =>
    exact congrArg₂ (fun job amount => some (agentPenalized job agent amount)) (hjob job)
      (hamount amount)
  | disputeRaised job appellant bond jurySize =>
    exact congrArg₂ (fun job bond => some (disputeRaised job appellant bond jurySize)) (hjob job)
      (hamount bond)
  | disputeResolved job employerWins recipient bond =>
    exact congrArg₂ (fun job bond => some (disputeResolved job employerWins recipient bond))
      (hjob job) (hamount bond)
  | _ => rfl

theorem gather?_entries (event : Event) : event.kind.gather? event.entries = some event := by
  have hkeys : event.kind.fields.mapM (fun field => lookupEntry field.1 event.entries) =
      some event.values := by
    have hlookup := mapM_lookupEntry event.nodup_entries
    rw [keys_entries, values_entries, List.mapM_map] at hlookup
    exact hlookup
  rw [EventKind.gather?, hkeys]
  exact event.ofValues?_values

theorem gather?_of_perm {entries : List (String × FieldValue)}
    (hperm : entries.Perm event.entries) : event.kind.gather? entries = some event := by
  have hlookup (field : String × FieldKind) :
      lookupEntry field.1 entries = lookupEntry field.1 event.entries :=
    lookupEntry_perm hperm event.nodup_entries field.1
  rw [← event.gather?_entries, EventKind.gather?, EventKind.gather?]
  simp only [hlookup]

theorem length_writeFields_le {entries : List (String × FieldValue)}
    (hperm : entries.Perm event.entries) : (writeFields entries).length ≤ 5 := by
  have hle := event.kind.length_fields_le
  rw [writeFields, List.length_map, hperm.length_eq, ← List.length_map Prod.fst, keys_entries,
    List.length_map]
  exact hle

theorem readData_writeObject (h : event.Fits) (hfields : event.kind.fields.isEmpty = false)
    {entries : List (String × FieldValue)} (hperm : entries.Perm event.entries) {fuel : Nat}
    (hfuel : 5 < fuel) (rest : List Char) :
    event.kind.readData fuel (Json.writeObject (writeFields entries) ++ rest) =
      .ok (event, rest) := by
  have hlength := Nat.lt_of_le_of_lt (length_writeFields_le hperm) hfuel
  obtain ⟨text, hshape, hread⟩ := (folds_members h hperm fuel).read_writeObject hlength rest
  rw [EventKind.readData, hfields, hshape]
  show (Json.foldMembers (event.kind.readMember fuel) fuel true [] text >>= _) = _
  rw [hread]
  show (Json.required (event.kind.gather? entries) >>= _) = _
  rw [gather?_of_perm hperm]
  rfl

theorem ofName?_name (kind : EventKind) : EventKind.ofName? kind.name = some kind := by
  cases kind <;> rfl

section Members

variable (levels fuel : Nat)

theorem recovers_type (kind : EventKind) :
    Recovers (readMember levels fuel .nothing "type") (':' :: Json.writeText kind.name.toList)
      (.kindOnly kind) := by
  intro rest hrest
  show (Json.readChoice EventKind.ofName? (Json.writeText kind.name.toList ++ rest) >>= _) = _
  rw [Json.recovers_readChoice (ofName?_name kind) rest hrest]
  rfl

theorem recovers_data (h : event.Fits) (hfields : event.kind.fields.isEmpty = false)
    {entries : List (String × FieldValue)} (hperm : entries.Perm event.entries)
    (hfuel : 5 < fuel) :
    Recovers (readMember levels fuel (.kindOnly event.kind) "data")
      (':' :: Json.writeObject (writeFields entries)) (.whole event) := by
  intro rest _
  show (event.kind.readData fuel (Json.writeObject (writeFields entries) ++ rest) >>= _) = _
  rw [readData_writeObject h hfields hperm hfuel]
  rfl

end Members

end Event

end Integrity
