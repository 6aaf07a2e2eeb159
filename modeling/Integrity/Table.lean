/-!
# Finite tables

A table assigns values to finitely many keys, each key at most once. Its entries keep the order in
which their keys came; a new value for a key takes the place of the old one.
-/

namespace Integrity

/-- The value of the first entry with a key. -/
def lookupEntry {κ ν : Type} [DecidableEq κ] (key : κ) : List (κ × ν) → Option ν
  | [] => none
  | (k, v) :: rest => if k = key then some v else lookupEntry key rest

/-- Gives a key a value, in place or at the end. -/
def insertEntry {κ ν : Type} [DecidableEq κ] (key : κ) (value : ν) : List (κ × ν) → List (κ × ν)
  | [] => [(key, value)]
  | (k, v) :: rest => if k = key then (key, value) :: rest else (k, v) :: insertEntry key value rest

/-- Takes the entries with a key away. -/
def eraseEntry {κ ν : Type} [DecidableEq κ] (key : κ) (entries : List (κ × ν)) : List (κ × ν) :=
  entries.filter fun entry => entry.1 ≠ key

theorem mem_keys_insertEntry {κ ν : Type} [DecidableEq κ] (key k : κ) (value : ν)
    (entries : List (κ × ν)) :
    k ∈ (insertEntry key value entries).map Prod.fst ↔ k = key ∨ k ∈ entries.map Prod.fst := by
  induction entries with
  | nil => simp [insertEntry]
  | cons entry rest ih =>
      obtain ⟨k', v'⟩ := entry
      by_cases h : k' = key
      · simp [insertEntry, h]
      · simp only [insertEntry, h, if_false, List.map_cons, List.mem_cons, ih]
        grind

theorem nodup_keys_insertEntry {κ ν : Type} [DecidableEq κ] (key : κ) (value : ν)
    {entries : List (κ × ν)} (h : (entries.map Prod.fst).Nodup) :
    ((insertEntry key value entries).map Prod.fst).Nodup := by
  induction entries with
  | nil => simp [insertEntry]
  | cons entry rest ih =>
      obtain ⟨k', v'⟩ := entry
      rw [List.map_cons, List.nodup_cons] at h
      by_cases hk : k' = key
      · subst hk
        simpa [insertEntry] using h
      · simp only [insertEntry, hk, if_false, List.map_cons, List.nodup_cons]
        refine ⟨?_, ih h.2⟩
        rw [mem_keys_insertEntry]
        rintro (rfl | hmem)
        · exact hk rfl
        · exact h.1 hmem

theorem nodup_keys_eraseEntry {κ ν : Type} [DecidableEq κ] (key : κ)
    {entries : List (κ × ν)} (h : (entries.map Prod.fst).Nodup) :
    ((eraseEntry key entries).map Prod.fst).Nodup :=
  h.sublist ((List.filter_sublist).map _)

/-- The sum of a measure over the values of entries. -/
def totalEntries {κ ν : Type} (measure : ν → Nat) (entries : List (κ × ν)) : Nat :=
  entries.foldr (fun entry sum => measure entry.2 + sum) 0

theorem eraseEntry_of_not_mem {κ ν : Type} [DecidableEq κ] {key : κ} {entries : List (κ × ν)}
    (h : key ∉ entries.map Prod.fst) : eraseEntry key entries = entries := by
  rw [eraseEntry, List.filter_eq_self]
  intro entry hentry
  simp only [ne_eq, decide_not, Bool.not_eq_true', decide_eq_false_iff_not]
  rintro rfl
  exact h (List.mem_map_of_mem hentry)

/-- A new value for a key takes the place of the old one in a sum. -/
theorem totalEntries_insertEntry {κ ν : Type} [DecidableEq κ] (measure : ν → Nat) (key : κ)
    (value : ν) (entries : List (κ × ν)) :
    totalEntries measure (insertEntry key value entries) +
        ((lookupEntry key entries).map measure).getD 0 =
      totalEntries measure entries + measure value := by
  induction entries with
  | nil => simp [insertEntry, lookupEntry, totalEntries]
  | cons entry rest ih =>
      obtain ⟨k, v⟩ := entry
      by_cases h : k = key
      · simp [insertEntry, lookupEntry, totalEntries, h]
        omega
      · simp only [insertEntry, lookupEntry, totalEntries, h, if_false, List.foldr_cons] at ih ⊢
        omega

theorem totalEntries_eraseEntry {κ ν : Type} [DecidableEq κ] (measure : ν → Nat) (key : κ)
    {entries : List (κ × ν)} (h : (entries.map Prod.fst).Nodup) :
    totalEntries measure (eraseEntry key entries) +
        ((lookupEntry key entries).map measure).getD 0 =
      totalEntries measure entries := by
  induction entries with
  | nil => rfl
  | cons entry rest ih =>
      obtain ⟨k, v⟩ := entry
      rw [List.map_cons, List.nodup_cons] at h
      by_cases hk : k = key
      · subst hk
        have hhead : eraseEntry k ((k, v) :: rest) = eraseEntry k rest := by
          simp [eraseEntry]
        rw [hhead, eraseEntry_of_not_mem h.1]
        simp only [lookupEntry, if_true, Option.map_some, Option.getD_some, totalEntries,
          List.foldr_cons]
        omega
      · have ih := ih h.2
        simp only [eraseEntry, List.filter_cons, ne_eq, hk, not_false_eq_true, decide_true,
          if_true, lookupEntry, if_false, totalEntries, List.foldr_cons] at ih ⊢
        omega

theorem lookupEntry_of_not_mem {κ ν : Type} [DecidableEq κ] {key : κ} {entries : List (κ × ν)}
    (h : key ∉ entries.map Prod.fst) : lookupEntry key entries = none := by
  induction entries with
  | nil => rfl
  | cons entry rest ih =>
      rw [List.map_cons, List.mem_cons, not_or] at h
      rw [lookupEntry, if_neg fun heq => h.1 heq.symm]
      exact ih h.2

/-- A finite assignment of values to keys. -/
structure Table (κ ν : Type) [DecidableEq κ] where
  /-- The entries, in the order in which their keys came. -/
  entries : List (κ × ν)
  nodup_keys : (entries.map Prod.fst).Nodup

namespace Table

variable {κ ν μ : Type} [DecidableEq κ]

instance [DecidableEq ν] : DecidableEq (Table κ ν) := fun s t =>
  if h : s.entries = t.entries then
    isTrue (by cases s; cases t; simp_all)
  else
    isFalse fun e => h (by rw [e])

/-- The table without entries. -/
def empty : Table κ ν :=
  ⟨[], List.nodup_nil⟩

instance : Inhabited (Table κ ν) :=
  ⟨empty⟩

/-- The value of a key. -/
def get? (t : Table κ ν) (key : κ) : Option ν :=
  lookupEntry key t.entries

/-- Whether a key has a value. -/
def contains (t : Table κ ν) (key : κ) : Bool :=
  (t.get? key).isSome

/-- Gives a key a value. -/
def insert (t : Table κ ν) (key : κ) (value : ν) : Table κ ν :=
  ⟨insertEntry key value t.entries, nodup_keys_insertEntry key value t.nodup_keys⟩

/-- Takes the value of a key away. -/
def erase (t : Table κ ν) (key : κ) : Table κ ν :=
  ⟨eraseEntry key t.entries, nodup_keys_eraseEntry key t.nodup_keys⟩

/-- Changes every value. -/
def map (f : ν → μ) (t : Table κ ν) : Table κ μ :=
  ⟨t.entries.map fun entry => (entry.1, f entry.2), by
    rw [List.map_map]
    exact t.nodup_keys⟩

/-- The number of keys. -/
def size (t : Table κ ν) : Nat :=
  t.entries.length

/-- The values, in the order of their keys. -/
def values (t : Table κ ν) : List ν :=
  t.entries.map Prod.snd

/-- The sum of a measure over the values. -/
def total (measure : ν → Nat) (t : Table κ ν) : Nat :=
  totalEntries measure t.entries

@[simp]
theorem get?_empty (key : κ) : (empty : Table κ ν).get? key = none :=
  rfl

theorem get?_insert (t : Table κ ν) (key k : κ) (value : ν) :
    (t.insert key value).get? k = if key = k then some value else t.get? k := by
  obtain ⟨entries, h⟩ := t
  simp only [insert, get?]
  clear h
  induction entries with
  | nil => simp [insertEntry, lookupEntry]
  | cons entry rest ih =>
      obtain ⟨k', v'⟩ := entry
      simp only [insertEntry]
      split <;> simp only [lookupEntry] <;> grind

theorem get?_erase (t : Table κ ν) (key k : κ) :
    (t.erase key).get? k = if key = k then none else t.get? k := by
  obtain ⟨entries, h⟩ := t
  simp only [erase, get?, eraseEntry]
  clear h
  induction entries with
  | nil => simp [lookupEntry]
  | cons entry rest ih =>
      obtain ⟨k', v'⟩ := entry
      by_cases hk : k' = key
      · subst hk
        simp only [List.filter_cons, ne_eq, not_true_eq_false, decide_false, lookupEntry]
        grind
      · simp only [List.filter_cons, ne_eq, hk, not_false_eq_true, decide_true, if_true,
          lookupEntry]
        grind

theorem get?_map (f : ν → μ) (t : Table κ ν) (key : κ) :
    (t.map f).get? key = (t.get? key).map f := by
  obtain ⟨entries, h⟩ := t
  simp only [map, get?]
  clear h
  induction entries with
  | nil => rfl
  | cons entry rest ih =>
      simp only [List.map_cons, lookupEntry]
      split
      · rfl
      · exact ih

theorem map_map {ξ : Type} (f : ν → μ) (g : μ → ξ) (t : Table κ ν) :
    (t.map f).map g = t.map (g ∘ f) := by
  simp [map, Function.comp_def]

/-- A new value for a key takes the place of the old one in a sum. -/
theorem total_insert (measure : ν → Nat) (t : Table κ ν) (key : κ) (value : ν) :
    (t.insert key value).total measure + ((t.get? key).map measure).getD 0 =
      t.total measure + measure value :=
  totalEntries_insertEntry measure key value t.entries

theorem total_erase (measure : ν → Nat) (t : Table κ ν) (key : κ) :
    (t.erase key).total measure + ((t.get? key).map measure).getD 0 = t.total measure :=
  totalEntries_eraseEntry measure key t.nodup_keys

/-! ## Counting the values -/

theorem total_eq_countP (p : ν → Bool) (t : Table κ ν) :
    t.total (fun value => (p value).toNat) = t.values.countP p := by
  obtain ⟨entries, h⟩ := t
  simp only [total, values]
  clear h
  induction entries with
  | nil => rfl
  | cons entry rest ih =>
      simp only [totalEntries, List.foldr_cons, List.map_cons, List.countP_cons] at ih ⊢
      rw [ih]
      cases p entry.2 <;> simp [Nat.add_comm]

/-- A new value for a key takes the place of the old one in a count. -/
theorem countP_values_insert (p : ν → Bool) (t : Table κ ν) (key : κ) (value : ν) :
    (t.insert key value).values.countP p + ((t.get? key).any p).toNat =
      t.values.countP p + (p value).toNat := by
  have h := total_insert (fun value => (p value).toNat) t key value
  rw [total_eq_countP, total_eq_countP] at h
  rw [← h]
  cases t.get? key <;> rfl

theorem size_insert (t : Table κ ν) (key : κ) (value : ν) :
    (t.insert key value).size + (t.get? key).isSome.toNat = t.size + 1 := by
  have h := countP_values_insert (fun _ => true) t key value
  simp only [List.countP_true, values, List.length_map] at h
  rw [size, size, ← Bool.toNat_true, ← h]
  cases t.get? key <;> rfl

theorem size_erase (t : Table κ ν) (key : κ) :
    (t.erase key).size + (t.get? key).isSome.toNat = t.size := by
  have h := total_erase (fun _ => true.toNat) t key
  simp only [total_eq_countP, List.countP_true, values, List.length_map] at h
  rw [size, size, ← h]
  cases t.get? key <;> rfl

theorem countP_values_pos {p : ν → Bool} {t : Table κ ν} {key : κ} {value : ν}
    (hvalue : t.get? key = some value) (hp : p value = true) : 0 < t.values.countP p := by
  have h := total_erase (fun value => (p value).toNat) t key
  rw [total_eq_countP, total_eq_countP, hvalue] at h
  simp only [Option.map_some, Option.getD_some, hp, Bool.toNat_true] at h
  omega

/-! ## Tables with the same keys -/

/-- The keys, in the order in which they came. -/
def keys (t : Table κ ν) : List κ :=
  t.entries.map Prod.fst

theorem mem_keys_of_get? {t : Table κ ν} {key : κ} {value : ν} (h : t.get? key = some value) :
    key ∈ t.keys := by
  obtain ⟨entries, hnodup⟩ := t
  simp only [get?, keys] at h ⊢
  clear hnodup
  induction entries with
  | nil => cases h
  | cons entry rest ih =>
      simp only [lookupEntry] at h
      split at h
      · next hkey => exact List.mem_map.mpr ⟨entry, List.mem_cons_self, hkey⟩
      · exact List.mem_cons_of_mem _ (ih h)

@[simp]
theorem keys_map (f : ν → μ) (t : Table κ ν) : (t.map f).keys = t.keys :=
  List.map_map

/-- A new value for a key that has one leaves the keys in their order. -/
theorem keys_insert {t : Table κ ν} {key : κ} (h : key ∈ t.keys) (value : ν) :
    (t.insert key value).keys = t.keys := by
  obtain ⟨entries, hnodup⟩ := t
  simp only [insert, keys] at h ⊢
  clear hnodup
  induction entries with
  | nil => simp at h
  | cons entry rest ih =>
      simp only [insertEntry]
      split
      · next hkey => simp [hkey]
      · next hkey =>
          rw [List.map_cons, List.mem_cons] at h
          obtain heq | hrest := h
          · exact absurd heq.symm hkey
          · simp [ih hrest]

/-- The keys in their order and the value of each are all that a table says. -/
theorem eq_of_keys_of_get? {s t : Table κ ν} (hkeys : s.keys = t.keys)
    (hget : ∀ key, s.get? key = t.get? key) : s = t := by
  obtain ⟨first, hfirst⟩ := s
  obtain ⟨second, hsecond⟩ := t
  simp only [keys, get?, mk.injEq] at hkeys hget ⊢
  clear hsecond
  induction first generalizing second with
  | nil => exact (List.map_eq_nil_iff.mp hkeys.symm).symm
  | cons entry rest ih =>
      cases second with
      | nil => simp at hkeys
      | cons other others =>
          obtain ⟨k, v⟩ := entry
          obtain ⟨k', v'⟩ := other
          simp only [List.map_cons, List.cons.injEq] at hkeys
          rw [List.map_cons, List.nodup_cons] at hfirst
          obtain ⟨rfl, hkeys⟩ := hkeys
          have hvalue : v = v' := by simpa [lookupEntry] using hget k
          have hrest : rest = others := by
            refine ih hfirst.2 others hkeys fun key => ?_
            by_cases hkey : k = key
            · -- The first key has no second entry, on either side.
              subst hkey
              rw [lookupEntry_of_not_mem hfirst.1, lookupEntry_of_not_mem (hkeys ▸ hfirst.1)]
            · simpa [lookupEntry, hkey] using hget key
          rw [hvalue, hrest]

/-- Values that are inserted one by one make another table with the same keys, if they are values
of that table and are given for every key where the two tables differ. -/
theorem foldl_insert_eq {s t : Table κ ν} {pairs : List (κ × ν)} (hkeys : s.keys = t.keys)
    (hpairs : ∀ pair ∈ pairs, t.get? pair.1 = some pair.2)
    (hothers : ∀ key, s.get? key = t.get? key ∨ key ∈ pairs.map Prod.fst) :
    pairs.foldl (fun table pair => table.insert pair.1 pair.2) s = t := by
  induction pairs generalizing s with
  | nil =>
      refine eq_of_keys_of_get? hkeys fun key => ?_
      simpa using hothers key
  | cons pair rest ih =>
      obtain ⟨key, value⟩ := pair
      have hvalue : t.get? key = some value := hpairs _ List.mem_cons_self
      rw [List.foldl_cons]
      apply ih
      · rw [keys_insert (hkeys ▸ mem_keys_of_get? hvalue), hkeys]
      · exact fun other hother => hpairs other (List.mem_cons_of_mem _ hother)
      · intro other
        rw [get?_insert]
        by_cases hkey : key = other
        · subst hkey
          rw [if_pos rfl, hvalue]
          exact .inl rfl
        · rw [if_neg hkey]
          obtain heq | hmem := hothers other
          · exact .inl heq
          · rw [List.map_cons, List.mem_cons] at hmem
            exact .inr (hmem.resolve_left fun heq => hkey heq.symm)

end Table

end Integrity
