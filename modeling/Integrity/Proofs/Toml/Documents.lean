import Integrity.Proofs.Entries
import Integrity.Proofs.Toml.Values

/-! # Documents of TOML are read back

A document that is written statement by statement is read as these statements. Assignments to
different keys in the table that is open become its entries, in their order. -/

namespace Integrity.Toml

variable {rest : List Char}

/-! ## Keys -/

/-- Whether a key can start with a character. -/
def startsKey (c : Char) : Bool :=
  isBare c || c == '"' || c == '\x27'

theorem writeKey_eq_cons (key : List Char) :
    ∃ c others, writeKey key = c :: others ∧ startsKey c = true := by
  rw [writeKey]
  split
  · next h =>
    rw [Bool.and_eq_true] at h
    cases key with
    | nil => exact absurd h.1 (by decide)
    | cons c others =>
      have hbare : isBare c = true := List.all_eq_true.mp h.2 c List.mem_cons_self
      exact ⟨c, others, rfl, by simp [startsKey, hbare]⟩
  · split
    · exact ⟨'"', _, rfl, by decide⟩
    · split
      · exact ⟨'\x27', _, rfl, by decide⟩
      · exact ⟨'"', _, rfl, by decide⟩

theorem ne_of_startsKey {c d : Char} (h : startsKey c = true) (hd : startsKey d = false) :
    c ≠ d := by
  rintro rfl
  exact absurd (h.symm.trans hd) (by decide)

theorem skipBlanks_cons {c : Char} (h : isBlank c = false) (rest : List Char) :
    skipBlanks (c :: rest) = c :: rest := by
  simp [skipBlanks, h]

theorem skipBlanks_writeKey (key rest : List Char) :
    skipBlanks (writeKey key ++ rest) = writeKey key ++ rest := by
  obtain ⟨c, others, hshape, hstart⟩ := writeKey_eq_cons key
  have hblank : isBlank c = false := by
    have hspace := ne_of_startsKey hstart (d := ' ') (by decide)
    have htab := ne_of_startsKey hstart (d := '\t') (by decide)
    simp [isBlank, hspace, htab]
  rw [hshape, List.cons_append, skipBlanks_cons hblank]

/-- The parts of a key, with points between them. -/
def writePath (path : List String) : List Char :=
  List.intercalate ['.'] (path.map fun key => writeKey key.toList)

theorem writePath_singleton (key : String) : writePath [key] = writeKey key.toList := by
  simp [writePath]

theorem writePath_cons_cons (first second : String) (others : List String) :
    writePath (first :: second :: others) =
      writeKey first.toList ++ '.' :: writePath (second :: others) := by
  simp [writePath, List.intercalate]

/-- What may come after the parts of a key. -/
structure EndsKey (rest : List Char) : Prop where
  bare : EndsBare rest
  point : ∀ after, skipBlanks rest ≠ '.' :: after

theorem readParts_writePath {path : List String} (hpath : path ≠ []) (hrest : EndsKey rest)
    {fuel : Nat} (hfuel : path.length ≤ fuel) :
    readParts fuel (writePath path ++ rest) = some (path, skipBlanks rest) := by
  induction path generalizing fuel with
  | nil => exact absurd rfl hpath
  | cons first path ih =>
    rw [List.length_cons] at hfuel
    obtain ⟨fuel, rfl⟩ : ∃ k, fuel = k + 1 := ⟨fuel - 1, by omega⟩
    cases path with
    | nil =>
      rw [writePath_singleton, readParts, skipBlanks_writeKey,
        readSimpleKey_writeKey _ hrest.bare]
      dsimp only [Option.bind_eq_bind, Option.bind_some]
      split
      · next after heq => exact absurd heq (hrest.point after)
      · rw [String.ofList_toList]
    | cons second others =>
      have hbare : EndsBare ('.' :: (writePath (second :: others) ++ rest)) := by
        intro c hc
        cases hc
        decide
      rw [writePath_cons_cons, List.append_assoc, List.cons_append, readParts,
        skipBlanks_writeKey, readSimpleKey_writeKey _ hbare]
      have hread := ih (by simp) (Nat.le_of_succ_le_succ hfuel)
      show (readParts fuel (writePath (second :: others) ++ rest) >>= _) = _
      rw [hread, String.ofList_toList]
      rfl

theorem length_le_length_writePath (path : List String) :
    path.length ≤ (writePath path).length := by
  induction path with
  | nil => exact Nat.zero_le _
  | cons first path ih =>
    obtain ⟨c, others, hshape, -⟩ := writeKey_eq_cons first.toList
    cases path with
    | nil => simp [writePath_singleton, hshape]
    | cons second others =>
      rw [writePath_cons_cons, hshape]
      simp only [List.length_cons, List.length_append] at ih ⊢
      omega

theorem readKey_writePath (path : List String) (key : String)
    (hdepth : path.length + 1 < depthLimit) (hrest : EndsKey rest) :
    readKey (writePath (path ++ [key]) ++ rest) = some (path, key, skipBlanks rest) := by
  have hlength := length_le_length_writePath (path ++ [key])
  have hfuel : (path ++ [key]).length ≤ (writePath (path ++ [key]) ++ rest).length + 1 := by
    have hsum : (writePath (path ++ [key]) ++ rest).length =
        (writePath (path ++ [key])).length + rest.length := List.length_append
    omega
  rw [readKey, readParts_writePath (by simp) hrest hfuel]
  simp [hdepth]

/-! ## Statements -/

/-- A value of an assignment, which is read back and does not start with a blank. -/
structure Written (written : List Char) (value : Datum) : Prop where
  recovers : Recovers (depthLimit - 1) written value
  starts : ∃ c others, written = c :: others ∧ isBlank c = false

theorem written_writeText (text : String) : Written (writeText text.toList) (.string text) where
  recovers := by
    have h := recovers_writeText (depthLimit - 1) text.toList
    rw [String.ofList_toList] at h
    exact h
  starts := by
    obtain ⟨quote, body, hshape, hquote⟩ := writeText_eq_cons text.toList
    refine ⟨quote, body, hshape, ?_⟩
    rcases hquote with rfl | rfl <;> decide

theorem written_ofInt {n : Int} (h : FitsInt64 n) : Written (Numeral.ofInt n) (.integer n) where
  recovers := recovers_ofInt _ h
  starts := by
    cases n with
    | negSucc n => exact ⟨'-', _, rfl, by decide⟩
    | ofNat n =>
      obtain ⟨c, digits, hshape, hdigit⟩ := Numeral.exists_ofNat_eq_cons n
      refine ⟨c, digits, hshape, ?_⟩
      rw [Bool.eq_false_iff]
      intro hblank
      simp only [isBlank, Bool.or_eq_true, beq_iff_eq] at hblank
      rcases hblank with rfl | rfl <;> cases hdigit

theorem written_writeArray (texts : List (List Char)) :
    Written (writeArray (texts.map writeText))
      (.sequence (texts.map fun text => .string (String.ofList text))) where
  recovers := recovers_writeArray (depthLimit - 2) texts
  starts := by
    match texts with
    | [] => exact ⟨'[', _, rfl, by decide⟩
    | [text] => exact ⟨'[', _, rfl, by decide⟩
    | first :: second :: others => exact ⟨'[', _, rfl, by decide⟩

/-- A text that is written statement by statement, with empty lines between them. -/
inductive Writes : List Char → List Statement → Prop where
  | nil : Writes [] []
  | blank {text statements} : Writes text statements → Writes ('\n' :: text) statements
  | header {text statements} (path : List String) (key : String) :
      path.length + 1 < depthLimit → Writes text statements →
      Writes (writeHeader (path ++ [key]) ++ text) (.header path key :: statements)
  | assignment {text statements written value} (key : String) : Written written value →
      Writes text statements →
      Writes (writeAssignment key written ++ text) (.assignment [] key value :: statements)

theorem Writes.append {first second : List Char} {statements others : List Statement}
    (h : Writes first statements) (hsecond : Writes second others) :
    Writes (first ++ second) (statements ++ others) := by
  induction h with
  | nil => exact hsecond
  | blank _ ih => exact .blank ih
  | header path key hdepth _ ih =>
    rw [List.append_assoc]
    exact .header path key hdepth ih
  | assignment key hvalue _ ih =>
    rw [List.append_assoc]
    exact .assignment key hvalue ih

theorem Writes.length_le {text : List Char} {statements : List Statement}
    (h : Writes text statements) : statements.length ≤ text.length := by
  induction h with
  | nil => exact Nat.le_refl _
  | blank _ ih => exact Nat.le_succ_of_le ih
  | header _ _ _ _ ih =>
    simp only [List.length_cons, List.length_append, writeHeader]
    omega
  | assignment _ _ _ ih =>
    simp only [List.length_cons, List.length_append, writeAssignment]
    omega

theorem writePath_eq_cons (path : List String) (key : String) :
    ∃ c others, writePath (path ++ [key]) = c :: others ∧ startsKey c = true := by
  cases path with
  | nil =>
    rw [List.nil_append, writePath_singleton]
    exact writeKey_eq_cons key.toList
  | cons first path =>
    obtain ⟨c, others, hshape, hstart⟩ := writeKey_eq_cons first.toList
    cases path with
    | nil => exact ⟨c, others ++ '.' :: writePath [key], by simp [writePath_cons_cons, hshape], hstart⟩
    | cons second more =>
      exact ⟨c, others ++ '.' :: writePath (second :: more ++ [key]),
        by simp [writePath_cons_cons, hshape], hstart⟩

theorem readStatement_header {path : List String} {key : String}
    (hdepth : path.length + 1 < depthLimit) (text : List Char) :
    readStatement (writeHeader (path ++ [key]) ++ text) =
      some (.header path key, '\n' :: text) := by
  have hends : EndsKey (']' :: '\n' :: text) := by
    refine ⟨fun c hc => ?_, nofun⟩
    cases hc
    decide
  have hread := readKey_writePath path key hdepth hends
  have hshape : writeHeader (path ++ [key]) ++ text =
      '[' :: (writePath (path ++ [key]) ++ ']' :: '\n' :: text) := by
    simp [writeHeader, writePath]
  obtain ⟨c, others, hpath, hstart⟩ := writePath_eq_cons path key
  rw [hshape, readStatement, hread]
  · rfl
  · intro after heq
    rw [hpath, List.cons_append] at heq
    exact ne_of_startsKey hstart (d := '[') (by decide) (List.cons.inj heq).1

theorem writeAssignment_append (key : String) (written text : List Char) :
    writeAssignment key written ++ text =
      writePath [key] ++ ' ' :: '=' :: ' ' :: (written ++ '\n' :: text) := by
  simp [writeAssignment, writePath_singleton]

theorem readStatement_assignment (key : String) {written : List Char} {value : Datum}
    (h : Written written value) (text : List Char) :
    readStatement (writeAssignment key written ++ text) =
      some (.assignment [] key value, '\n' :: text) := by
  have hends : EndsKey (' ' :: '=' :: ' ' :: (written ++ '\n' :: text)) := by
    refine ⟨fun c hc => ?_, nofun⟩
    cases hc
    decide
  have hkey := readKey_writePath [] key (by decide) hends
  obtain ⟨c, others, hstarts, hblank⟩ := h.starts
  have hskip : skipBlanks (' ' :: (written ++ '\n' :: text)) = written ++ '\n' :: text := by
    rw [hstarts, List.cons_append]
    exact skipBlanks_cons hblank _
  obtain ⟨d, more, hpath, hstart⟩ := writePath_eq_cons [] key
  have hne (after : List Char) : writeAssignment key written ++ text ≠ '[' :: after := by
    rw [writeAssignment_append]
    rw [List.nil_append] at hpath
    rw [hpath, List.cons_append]
    exact fun heq => ne_of_startsKey hstart (d := '[') (by decide) (List.cons.inj heq).1
  have hvalue := h.recovers (2 * (writeAssignment key written ++ text).length + 2) ('\n' :: text)
    (by rw [writeAssignment_append]; simp only [List.length_append, List.length_cons]; omega)
    ⟨'\n', text, rfl, .inl rfl⟩
  rw [readStatement]
  · generalize 2 * (writeAssignment key written ++ text).length + 2 = fuel at hvalue
    rw [List.nil_append] at hkey
    rw [writeAssignment_append, hkey]
    show (readValue (depthLimit - 1) fuel (skipBlanks (' ' :: (written ++ '\n' :: text))) >>= _) = _
    rw [hskip, hvalue]
    rfl
  · exact fun after => hne _
  · exact hne

theorem readStatements_step {fuel : Nat} {c : Char} {text rest : List Char} {statement : Statement}
    {statements : List Statement} (hc : c ∉ ['\n', '\r', ' ', '\t', '#'])
    (hstatement : readStatement (c :: text) = some (statement, '\n' :: rest))
    (hrest : readStatements fuel rest = some statements) :
    readStatements (fuel + 1) (c :: text) = some (statement :: statements) := by
  rw [readStatements, skipFiller_cons hc]
  show (readStatement (c :: text) >>= _) = _
  rw [hstatement]
  show (readStatements fuel rest >>= _) = _
  rw [hrest]
  rfl

/-- A document is read statement by statement. -/
theorem Writes.readStatements {text : List Char} {statements : List Statement}
    (h : Writes text statements) {fuel : Nat} (hfuel : statements.length < fuel) :
    readStatements fuel text = some statements := by
  induction h generalizing fuel with
  | nil =>
    obtain ⟨fuel, rfl⟩ : ∃ k, fuel = k + 1 := ⟨fuel - 1, by omega⟩
    rfl
  | blank _ ih =>
    obtain ⟨fuel, rfl⟩ : ∃ k, fuel = k + 1 := ⟨fuel - 1, by omega⟩
    exact ih hfuel
  | @header text statements path key hdepth _ ih =>
    rw [List.length_cons] at hfuel
    obtain ⟨fuel, rfl⟩ : ∃ k, fuel = k + 1 := ⟨fuel - 1, by omega⟩
    exact readStatements_step (by decide) (readStatement_header hdepth text) (ih (by omega))
  | @assignment text statements written value key hvalue _ ih =>
    rw [List.length_cons] at hfuel
    obtain ⟨fuel, rfl⟩ : ∃ k, fuel = k + 1 := ⟨fuel - 1, by omega⟩
    have hread := readStatement_assignment key hvalue text
    obtain ⟨c, others, hshape, hstart⟩ := writeKey_eq_cons key.toList
    have hc : c ∉ ['\n', '\r', ' ', '\t', '#'] := by
      intro hmem
      simp only [List.mem_cons, List.not_mem_nil, or_false] at hmem
      rcases hmem with rfl | rfl | rfl | rfl | rfl <;> exact absurd hstart (by decide)
    rw [writeAssignment, hshape] at hread ⊢
    exact readStatements_step hc hread (ih (by omega))

/-! ## Drafts -/

/-- Assignments of values to the keys of the open table. -/
def assignments (entries : List (String × Datum)) : List Statement :=
  entries.map fun entry => .assignment [] entry.1 entry.2

/-- Entries as items of a table. -/
def values (entries : List (String × Datum)) : Items :=
  entries.map fun entry => (entry.1, .value entry.2)

/-- Assignments to different keys of the open table, none of which it has yet, become its last
items. -/
theorem foldlM_assignments (draft : Draft) (entries : List (String × Datum))
    (h : (draft.items.map Prod.fst ++ entries.map Prod.fst).Nodup) :
    (assignments entries).foldlM Draft.apply draft =
      some { draft with items := draft.items ++ values entries } := by
  induction entries generalizing draft with
  | nil => simp [assignments, values]
  | cons entry entries ih =>
    have hnew : entry.1 ∉ draft.items.map Prod.fst := by
      rw [List.map_cons] at h
      exact fun hmem => (List.nodup_append.mp h).2.2 entry.1 hmem entry.1 List.mem_cons_self rfl
    have happly : draft.apply (.assignment [] entry.1 entry.2) =
        some { draft with items := draft.items ++ [(entry.1, .value entry.2)] } := by
      simp [Draft.apply, assign, descend, lookupEntry_of_not_mem hnew,
        insertEntry_of_not_mem hnew]
    have hrest := ih { draft with items := draft.items ++ [(entry.1, .value entry.2)] }
      (by simpa using h)
    rw [assignments, List.map_cons, List.foldlM_cons, happly]
    show (assignments entries).foldlM Draft.apply _ = _
    rw [hrest]
    simp [values]

/-- A header that opens a new table, with the assignments behind it. -/
theorem foldlM_table {draft opened : Draft} {header : Statement}
    (hheader : draft.apply header = some opened) (hitems : opened.items = [])
    {entries : List (String × Datum)} (h : (entries.map Prod.fst).Nodup)
    (rest : List Statement) :
    (header :: (assignments entries ++ rest)).foldlM Draft.apply draft =
      rest.foldlM Draft.apply { opened with items := values entries } := by
  have hentries := foldlM_assignments opened entries (by simpa [hitems] using h)
  rw [hitems, List.nil_append] at hentries
  rw [List.foldlM_cons, hheader]
  show (assignments entries ++ rest).foldlM Draft.apply opened = _
  rw [List.foldlM_append, hentries]
  rfl

theorem itemData_values (entries : List (String × Datum)) : itemData (values entries) = entries := by
  induction entries with
  | nil => rfl
  | cons entry entries ih =>
    show (entry.1, (Node.value entry.2).datum) :: itemData (values entries) = _
    rw [ih, Node.datum]

theorem itemData_append (first second : Items) :
    itemData (first ++ second) = itemData first ++ itemData second := by
  induction first with
  | nil => rfl
  | cons item first ih => rw [List.cons_append, itemData, ih, itemData, List.cons_append]

/-- A document is read as what its statements build up. -/
theorem Writes.ofText {c : Char} {text : List Char} {statements : List Statement}
    (h : Writes (c :: text) statements) (hmark : c ≠ '\ufeff') {draft : Draft} {items : Items}
    (hdraft : statements.foldlM Draft.apply Draft.empty = some draft)
    (hclose : draft.close = some items) :
    ofText (c :: text) = some (.mapping (itemData items)) := by
  have hskip : skipMark (c :: text) = c :: text := by
    rw [skipMark]
    exact fun rest heq => hmark (List.cons.inj heq).1
  rw [Toml.ofText, hskip, h.readStatements (Nat.lt_succ_of_le h.length_le)]
  show (statements.foldlM Draft.apply Draft.empty >>= _) = _
  rw [hdraft]
  show (draft.close >>= _) = _
  rw [hclose]
  rfl

end Integrity.Toml
