import Integrity.Table

/-! # Entries with different keys

What is looked up among entries of which no two have the same key, and what becomes of them when an
entry with another key is added. -/

namespace Integrity

variable {κ ν μ : Type} [DecidableEq κ]

theorem insertEntry_of_not_mem {key : κ} {entries : List (κ × ν)}
    (h : key ∉ entries.map Prod.fst) (value : ν) :
    insertEntry key value entries = entries ++ [(key, value)] := by
  induction entries with
  | nil => rfl
  | cons entry rest ih =>
    rw [List.map_cons, List.mem_cons, not_or] at h
    rw [insertEntry, if_neg fun heq => h.1 heq.symm, ih h.2, List.cons_append]

theorem lookupEntry_map (f : ν → μ) (key : κ) (entries : List (κ × ν)) :
    lookupEntry key (entries.map fun entry => (entry.1, f entry.2)) =
      (lookupEntry key entries).map f := by
  induction entries with
  | nil => rfl
  | cons entry rest ih =>
    by_cases h : entry.1 = key <;> simp [lookupEntry, h, ih]

theorem mem_of_lookupEntry {key : κ} {value : ν} {entries : List (κ × ν)}
    (h : lookupEntry key entries = some value) : (key, value) ∈ entries := by
  induction entries with
  | nil => cases h
  | cons entry rest ih =>
    rw [lookupEntry] at h
    split at h
    · next hkey =>
      cases h
      subst hkey
      exact List.mem_cons_self
    · exact List.mem_cons_of_mem entry (ih h)

theorem exists_mem_of_lookupEntry {key : κ} {value : ν} {entries : List (κ × ν)}
    (h : lookupEntry key entries = some value) : ∃ entry ∈ entries, entry.2 = value :=
  ⟨(key, value), mem_of_lookupEntry h, rfl⟩

theorem lookupEntry_of_mem {entries : List (κ × ν)} (h : (entries.map Prod.fst).Nodup) {key : κ}
    {value : ν} (hmem : (key, value) ∈ entries) : lookupEntry key entries = some value := by
  induction entries with
  | nil => cases hmem
  | cons entry rest ih =>
    rw [List.map_cons, List.nodup_cons] at h
    rw [lookupEntry]
    rcases List.mem_cons.mp hmem with rfl | hrest
    · rw [if_pos rfl]
    · rw [if_neg, ih h.2 hrest]
      rintro rfl
      exact h.1 (List.mem_map.mpr ⟨(entry.1, value), hrest, rfl⟩)

/-- Entries with different keys are looked up alike in every order. -/
theorem lookupEntry_perm {entries others : List (κ × ν)} (h : entries.Perm others)
    (hnodup : (others.map Prod.fst).Nodup) (key : κ) :
    lookupEntry key entries = lookupEntry key others := by
  have hkeys : (entries.map Prod.fst).Nodup := (h.map Prod.fst).nodup_iff.mpr hnodup
  apply Option.ext
  intro value
  constructor
  · intro hvalue
    exact lookupEntry_of_mem hnodup (h.mem_iff.mp (mem_of_lookupEntry hvalue))
  · intro hvalue
    exact lookupEntry_of_mem hkeys (h.mem_iff.mpr (mem_of_lookupEntry hvalue))

theorem forall_mem_insertEntry {good : ν → Prop} {key : κ} {value : ν} {entries : List (κ × ν)}
    (h : ∀ entry ∈ entries, good entry.2) (hvalue : good value) :
    ∀ entry ∈ insertEntry key value entries, good entry.2 := by
  induction entries with
  | nil => simpa [insertEntry] using hvalue
  | cons entry rest ih =>
    rw [List.forall_mem_cons] at h
    rw [insertEntry]
    split
    · exact List.forall_mem_cons.mpr ⟨hvalue, h.2⟩
    · exact List.forall_mem_cons.mpr ⟨h.1, ih h.2⟩

/-- The keys in their order are looked up one after the other. -/
theorem mapM_lookupEntry {entries : List (κ × ν)} (h : (entries.map Prod.fst).Nodup) :
    (entries.map Prod.fst).mapM (fun key => lookupEntry key entries) =
      some (entries.map Prod.snd) := by
  have hall : ∀ found, found ⊆ entries →
      (found.map Prod.fst).mapM (fun key => lookupEntry key entries) =
        some (found.map Prod.snd) := by
    intro found hsubset
    induction found with
    | nil => rfl
    | cons entry rest ih =>
      obtain ⟨hentry, hrest⟩ := List.cons_subset.mp hsubset
      rw [List.map_cons, List.mapM_cons, lookupEntry_of_mem h hentry, ih hrest]
      rfl
  exact hall entries (List.Subset.refl entries)

end Integrity
