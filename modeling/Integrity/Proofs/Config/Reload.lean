import Integrity.Proofs.Config.Text
import Integrity.Proofs.Temperature.ControlLaw
import Integrity.Proofs.Toml.Range

/-! # Configurations are reloaded unchanged

Every configuration that is read from a text can be written again, since the numbers of a document
fit, and is then read back. -/

namespace Integrity.Config

open Temperature (Ends ends_trivially)
open Toml (Fits)

/-! ## What is decoded fits -/

theorem decodeNatural_ends {found : Datum} (h : Fits found) (most : Nat) (expected : String) :
    Ends (decodeNatural most expected found) (fun n => (n : Int) ≤ maxInt64) fun _ => True := by
  cases h with
  | integer hfits =>
    rw [decodeNatural]
    split
    · next hrange =>
      show ((Int.toNat _ : Nat) : Int) ≤ maxInt64
      rw [Int.toNat_of_nonneg hrange.1]
      exact hfits.2
    · trivial
  | _ => trivial

theorem decodeAmount_ends {found : Datum} (h : Fits found) :
    Ends (decodeAmount found) (fun amount => (amount.units : Int) ≤ maxInt64) fun _ => True :=
  (decodeNatural_ends h maxWord64 "u64").map fun n hn =>
    Int.le_trans (Int.ofNat_le.mpr (Nat.min_le_left n maxWord64)) hn

theorem toNat_ofNat_le {n : Nat} (h : (n : Int) ≤ maxInt64) :
    ((UInt64.ofNat n).toNat : Int) ≤ maxInt64 :=
  Int.le_trans (Int.ofNat_le.mpr (Nat.mod_le n _)) h

/-- Reading the part from data that fits keeps what is true of a section. -/
def Field.Keeps {σ : Type} (good : σ → Prop) (field : Field σ) : Prop :=
  ∀ found state, Fits found → good state → Ends (field.read found state) good fun _ => True

section Keeps

variable {σ α : Type} {good : σ → Prop} {fields : List (Field σ)} {dialect : Dialect}

theorem keeps_field {key : String} {isOptional : Bool} {decode : Datum → Except DecodeError α}
    {set : α → σ → σ} {fine : α → Prop}
    (hdecode : ∀ found, Fits found → Ends (decode found) fine fun _ => True)
    (hset : ∀ value state, fine value → good state → good (set value state)) :
    (field key isOptional decode set).Keeps good := fun found state hfound hstate =>
  (hdecode found hfound).map fun value hvalue => hset value state hvalue hstate

/-- A part that says nothing about the numbers of its section. -/
theorem keeps_plain {key : String} {isOptional : Bool} {decode : Datum → Except DecodeError α}
    {set : α → σ → σ} (hset : ∀ value state, good state → good (set value state)) :
    (field key isOptional decode set).Keeps good :=
  keeps_field (fun _ _ => ends_trivially _) fun value state _ => hset value state

theorem readEntries_ends (hfields : ∀ field ∈ fields, field.Keeps good)
    {entries : List (String × Datum)} (hentries : ∀ entry ∈ entries, Fits entry.2) {state : σ}
    (h : good state) : Ends (readEntries fields state entries) good fun _ => True := by
  induction entries generalizing state with
  | nil => exact h
  | cons entry entries ih =>
    rw [List.forall_mem_cons] at hentries
    rw [readEntries, List.foldlM_cons]
    dsimp only
    split
    · next field hfind =>
      have hfield := hfields field (List.mem_of_find?_eq_some hfind)
      exact (hfield entry.2 state hentries.1 h).bind fun _ hnext => ih hentries.2 hnext
    · exact ih hentries.2 h

theorem readElements_ends (hfields : ∀ field ∈ fields, field.Keeps good) (expected : String)
    (index : Nat) {elements : List Datum} (helements : ∀ element ∈ elements, Fits element)
    {state : σ} (h : good state) :
    Ends (readElements expected index fields state elements) good fun _ => True := by
  induction fields generalizing index elements state with
  | nil => exact h
  | cons field fields ih =>
    rw [List.forall_mem_cons] at hfields
    cases elements with
    | nil =>
      rw [readElements]
      split
      · exact ih hfields.2 (index + 1) helements h
      · trivial
    | cons element elements =>
      rw [List.forall_mem_cons] at helements
      rw [readElements]
      exact (hfields.1 element state helements.1 h).bind fun _ hnext =>
        ih hfields.2 (index + 1) helements.2 hnext

/-- What is true at the start of a section and kept by each of its parts is true of the section. -/
theorem decodeSection_ends (hfields : ∀ field ∈ fields, field.Keeps good) (name : String)
    {start : σ} (h : good start) {found : Datum} (hfound : Fits found) :
    Ends (decodeSection dialect name fields start found) good fun _ => True := by
  have hentries (entries : List (String × Datum)) (hfits : ∀ entry ∈ entries, Fits entry.2) :
      Ends (decodeSection dialect name fields start (.mapping entries)) good fun _ => True := by
    refine (readEntries_ends hfields hfits h).bind fun state hstate => ?_
    split
    · trivial
    · exact hstate
  have helements (elements : List Datum) (hfits : ∀ element ∈ elements, Fits element) :
      Ends (decodeSection dialect name fields start (.sequence elements)) good fun _ => True := by
    refine (readElements_ends hfields _ 0 hfits h).bind fun state hstate => ?_
    split
    · trivial
    · exact hstate
  cases hfound with
  | mapping hfits => exact hentries _ hfits
  | moment => exact hentries [] nofun
  | sequence hfits => exact helements _ hfits
  | tables hfits => exact helements _ hfits
  | _ => trivial

end Keeps

theorem AuditSection.keeps (dialect : Dialect) :
    ∀ field ∈ auditFields dialect, field.Keeps AuditSection.IsWritable := by
  simp only [auditFields, List.forall_mem_cons]
  refine ⟨?_, ?_, ?_, ?_, ?_, ?_, ?_, nofun⟩
  · exact keeps_plain fun _ _ h => h
  · exact keeps_plain fun _ _ h => h
  · exact keeps_plain fun _ _ h => h
  · exact keeps_field (fun _ => decodeAmount_ends) fun _ _ hvalue h => ⟨hvalue, h.2⟩
  · exact keeps_plain fun _ _ h => h
  · exact keeps_plain fun _ _ h => h
  · exact keeps_field (fun _ hfits => decodeNatural_ends hfits _ _) fun _ _ hvalue h =>
      ⟨h.1, toNat_ofNat_le hvalue⟩

theorem DisputeSection.keeps :
    ∀ field ∈ disputeFields, field.Keeps DisputeSection.IsWritable := by
  simp only [disputeFields, List.forall_mem_cons]
  refine ⟨?_, ?_, ?_, ?_, ?_, nofun⟩
  · exact keeps_plain fun _ _ h => h
  · exact keeps_field (fun _ => decodeAmount_ends) fun _ _ hvalue h => ⟨hvalue, h.2⟩
  · exact keeps_field (fun _ hfits => decodeNatural_ends hfits _ _) fun _ _ hvalue h =>
      ⟨h.1, toNat_ofNat_le hvalue⟩
  · exact keeps_plain fun _ _ h => h
  · exact keeps_plain fun _ _ h => h

theorem AuditSection.isWritable_default : AuditSection.default.IsWritable :=
  ⟨by decide, by decide⟩

theorem DisputeSection.isWritable_default : DisputeSection.default.IsWritable :=
  ⟨by decide, by decide⟩

theorem keeps (dialect : Dialect) :
    ∀ field ∈ sectionFields dialect, field.Keeps Config.IsWritable := by
  simp only [sectionFields, List.forall_mem_cons]
  refine ⟨?_, ?_, ?_, ?_, nofun⟩
  · exact keeps_plain fun _ _ h => h
  · exact keeps_field
      (fun _ => decodeSection_ends (AuditSection.keeps dialect) _ AuditSection.isWritable_default)
      fun _ _ hvalue h => ⟨hvalue, h.2⟩
  · exact keeps_field
      (fun _ => decodeSection_ends DisputeSection.keeps _ DisputeSection.isWritable_default)
      fun _ _ hvalue h => ⟨h.1, hvalue⟩
  · exact keeps_plain fun _ _ h => h

theorem isWritable_of_ofText {text : List Char} {c : Config} (h : ofText text = .ok c) :
    c.IsWritable := by
  rw [ofText] at h
  split at h
  · cases h
  · next found hfound =>
    have hends : Ends (ofDatum .toml found) Config.IsWritable fun _ => True :=
      decodeSection_ends (keeps .toml) "EngineConfig"
        ⟨AuditSection.isWritable_default, DisputeSection.isWritable_default⟩
        (Toml.ofText_fits hfound)
    cases hdecode : ofDatum .toml found with
    | error cause =>
      rw [hdecode] at h
      cases h
    | ok decoded =>
      rw [hdecode] at h hends
      cases h
      exact hends

/-! ## Reloading -/

/-- The configuration with a table of levels of single modules. -/
def withFilters (c : Config) (filters : Table String String) : Config :=
  { c with logging := { c.logging with moduleFilters := filters } }

/-- A configuration that was read can be written, with the levels of single modules in any order,
and what is written is read as that configuration. A configuration can be written exactly when its
numbers without a sign fit those of TOML, and is always read back. -/
theorem ofText_render_of_ofText :
    (∀ text c, ofText text = .ok c →
      ∀ filters : Table String String,
        (∀ key, filters.get? key = c.logging.moduleFilters.get? key) →
        ∃ written, (c.withFilters filters).render = .ok written ∧
          ofText written = .ok (c.withFilters filters)) ∧
    (∀ c : Config, (∃ written, c.render = .ok written) ↔ c.IsWritable) ∧
    ∀ (c : Config) (written : List Char), c.render = .ok written → ofText written = .ok c := by
  refine ⟨fun text c h filters _ => ?_, exists_render, fun _ _ => ofText_render⟩
  have hwritable : c.IsWritable := isWritable_of_ofText h
  obtain ⟨written, hwritten⟩ := (exists_render (c.withFilters filters)).mpr hwritable
  exact ⟨written, hwritten, ofText_render hwritten⟩

end Integrity.Config
