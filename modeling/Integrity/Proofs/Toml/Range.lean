import Integrity.Proofs.Entries
import Integrity.Toml.Document

/-! # The numbers of a document

Every whole number that is read from a document fits 64 bits with a sign: it does where it is read,
and tables are only built up from values that were read. -/

namespace Integrity.Toml

/-! ## Data -/

/-- Every whole number of a piece of data fits 64 bits with a sign. -/
inductive Fits : Datum → Prop where
  | null : Fits .null
  | boolean (value) : Fits (.boolean value)
  | integer {value} : FitsInt64 value → Fits (.integer value)
  | real (value) : Fits (.real value)
  | moment (value) : Fits (.moment value)
  | string (value) : Fits (.string value)
  | sequence {elements} : (∀ element ∈ elements, Fits element) → Fits (.sequence elements)
  | tables {elements} : (∀ element ∈ elements, Fits element) → Fits (.tables elements)
  | mapping {entries} : (∀ entry ∈ entries, Fits entry.2) → Fits (.mapping entries)

/-- Every whole number under a key fits. -/
inductive NodeFits : Node → Prop where
  | value {value} : Fits value → NodeFits (.value value)
  | table {implied dotted items} : (∀ item ∈ items, NodeFits item.2) →
      NodeFits (.table implied dotted items)
  | tables {elements} : (∀ items ∈ elements, ∀ item ∈ items, NodeFits item.2) →
      NodeFits (.tables elements)

/-- Every whole number of a table fits. -/
def ItemsFit (items : Items) : Prop :=
  ∀ item ∈ items, NodeFits item.2

theorem itemsFit_nil : ItemsFit [] :=
  nofun

theorem forall_mem_itemData {items : Items} (h : ∀ item ∈ items, Fits item.2.datum) :
    ∀ entry ∈ itemData items, Fits entry.2 := by
  induction items with
  | nil => exact nofun
  | cons item items ih =>
    rw [List.forall_mem_cons] at h
    exact List.forall_mem_cons.mpr ⟨h.1, ih h.2⟩

theorem forall_mem_elementData {elements : List Items}
    (h : ∀ items ∈ elements, ∀ item ∈ items, Fits item.2.datum) :
    ∀ element ∈ elementData elements, Fits element := by
  induction elements with
  | nil => exact nofun
  | cons items elements ih =>
    rw [List.forall_mem_cons] at h
    exact List.forall_mem_cons.mpr ⟨.mapping (forall_mem_itemData h.1), ih h.2⟩

theorem NodeFits.datum {node : Node} (h : NodeFits node) : Fits node.datum := by
  induction h with
  | value hvalue => exact hvalue
  | table _ ih => exact .mapping (forall_mem_itemData ih)
  | tables _ ih => exact .tables (forall_mem_elementData ih)

theorem ItemsFit.data {items : Items} (h : ItemsFit items) : Fits (.mapping (itemData items)) :=
  .mapping (forall_mem_itemData fun item hitem => (h item hitem).datum)

/-! ## Readers -/

/-- What holds of the result, if there is one. -/
def Yields {α : Type} (answer : Option α) (good : α → Prop) : Prop :=
  ∀ a, answer = some a → good a

section Yields

variable {α β : Type} {answer : Option α} {good middle : α → Prop} {fine : β → Prop}

theorem yields_none : Yields none good :=
  nofun

theorem yields_some {a : α} (h : good a) : Yields (some a) good :=
  fun _ heq => Option.some.inj heq ▸ h

theorem yields_trivially (answer : Option α) : Yields answer fun _ => True :=
  fun _ _ => trivial

theorem Yields.bind {next : α → Option β} (h : Yields answer middle)
    (hnext : ∀ a, middle a → Yields (next a) fine) : Yields (answer >>= next) fine := by
  cases answer with
  | none => exact yields_none
  | some a => exact hnext a (h a rfl)

theorem Yields.map {f : α → β} (h : Yields answer middle) (hf : ∀ a, middle a → fine (f a)) :
    Yields (answer.map f) fine := by
  cases answer with
  | none => exact yields_none
  | some a => exact yields_some (hf a (h a rfl))

theorem Yields.orElse {other : Option α} (h : Yields answer good) (hother : Yields other good) :
    Yields (answer <|> other) good := by
  cases answer with
  | none => exact hother
  | some a => exact yields_some (h a rfl)

end Yields

theorem fitting_yields (n : Int) : Yields (fitting n) Fits := by
  rw [fitting]
  split
  · next hfits => exact yields_some (.integer hfits)
  · exact yields_none

theorem real_yields (negative : Bool) (d : Number.Decimal) : Yields (real negative d) Fits := by
  rw [real.eq_def]
  split
  · exact yields_some (.real _)
  · exact yields_some (.real _)
  · exact yields_none

theorem readDecimal_yields (text : List Char) :
    Yields (readDecimal text) fun made => Fits made.1 := by
  rw [readDecimal]
  refine (yields_trivially _).bind fun _ _ => ?_
  refine (yields_trivially _).bind fun _ _ => ?_
  refine (yields_trivially _).bind fun _ _ => ?_
  dsimp only
  split
  · exact (fitting_yields _).bind fun _ hfits => yields_some hfits
  · exact (real_yields _ _).bind fun _ hfits => yields_some hfits

theorem readBased_yields (base : Nat) (text : List Char) :
    Yields (readBased base text) fun made => Fits made.1 := by
  rw [readBased]
  refine (yields_trivially _).bind fun _ _ => ?_
  exact (fitting_yields _).bind fun _ hfits => yields_some hfits

theorem readSpecial_yields (text : List Char) :
    Yields (readSpecial text) fun made => Fits made.1 := by
  rw [readSpecial]
  dsimp only
  split
  · exact yields_some (.real _)
  · exact yields_some (.real _)
  · exact yields_none

theorem readNumber_yields (text : List Char) :
    Yields (readNumber text) fun made => Fits made.1 := by
  rw [readNumber.eq_def]
  split
  · exact readBased_yields 16 _
  · exact readBased_yields 8 _
  · exact readBased_yields 2 _
  · exact (readSpecial_yields text).orElse (readDecimal_yields text)

theorem readMoment_yields (text : List Char) :
    Yields (readMoment text) fun made => Fits made.1 := by
  rw [readMoment]
  split
  · exact (yields_trivially _).map fun _ _ => .moment _
  · exact (yields_trivially _).map fun _ _ => .moment _

/-! ## Tables -/

/-- A table at the end of a path is changed, and those on the way stay as they are. -/
theorem descend_yields {α : Type} {act : Bool → Items → Option (Items × α)} (good : α → Prop)
    (hact : ∀ isDotted items, ItemsFit items →
      Yields (act isDotted items) fun made => ItemsFit made.1 ∧ good made.2)
    (dotted : Bool) (path : List String) (isDotted : Bool) {items : Items} (h : ItemsFit items) :
    Yields (descend dotted act path isDotted items) fun made =>
      ItemsFit made.1 ∧ good made.2 := by
  induction path generalizing isDotted items with
  | nil => exact hact isDotted items h
  | cons key path ih =>
    rw [descend]
    cases hlookup : lookupEntry key items with
    | none =>
      refine (ih dotted itemsFit_nil).bind fun (child, result) hmade => ?_
      exact yields_some ⟨forall_mem_insertEntry h (.table hmade.1), hmade.2⟩
    | some node =>
      obtain ⟨item, hitem, rfl⟩ := exists_mem_of_lookupEntry hlookup
      have hnode := h item hitem
      cases hshape : item.2 with
      | value value => exact yields_none
      | table implied isDotted child =>
        rw [hshape] at hnode
        cases hnode with
        | table hchild =>
          dsimp only
          split
          · exact yields_none
          · refine (ih isDotted hchild).bind fun (child, result) hmade => ?_
            exact yields_some ⟨forall_mem_insertEntry h (.table hmade.1), hmade.2⟩
      | tables elements =>
        rw [hshape] at hnode
        cases hnode with
        | tables helements =>
          have hlast : Yields elements.getLast? ItemsFit := fun last hlast =>
            helements last (List.mem_of_getLast? hlast)
          refine hlast.bind fun last hlast => ?_
          refine (ih false hlast).bind fun (child, result) hmade => ?_
          refine yields_some ⟨forall_mem_insertEntry h (.tables ?_), hmade.2⟩
          intro items hitems
          rcases List.mem_append.mp hitems with hitems | hitems
          · exact helements items (List.dropLast_subset elements hitems)
          · rw [List.mem_singleton] at hitems
            exact hitems ▸ hmade.1

theorem assign_yields (path : List String) (key : String) {value : Datum} (hvalue : Fits value)
    {items : Items} (h : ItemsFit items) : Yields (assign path key value items) ItemsFit := by
  have hact (isDotted : Bool) (items : Items) (h : ItemsFit items) :
      Yields (if isDotted = path.isEmpty ∨ (lookupEntry key items).isSome then none
        else some (insertEntry key (.value value) items, ()))
        fun made => ItemsFit made.1 ∧ True := by
    split
    · exact yields_none
    · exact yields_some ⟨forall_mem_insertEntry h (.value hvalue), trivial⟩
  exact (descend_yields (fun _ => True) hact true path false h).map fun _ hmade => hmade.1

theorem foldlM_yields {α σ : Type} {good : σ → Prop} {fine : α → Prop} {next : σ → α → Option σ}
    (hnext : ∀ state a, good state → fine a → Yields (next state a) good) {state : σ}
    {steps : List α} (h : good state) (hsteps : ∀ a ∈ steps, fine a) :
    Yields (steps.foldlM next state) good := by
  induction steps generalizing state with
  | nil => exact yields_some h
  | cons a steps ih =>
    rw [List.forall_mem_cons] at hsteps
    rw [List.foldlM_cons]
    exact (hnext state a h hsteps.1).bind fun state h => ih h hsteps.2

theorem assignAll_yields {assignments : List (List String × String × Datum)}
    (h : ∀ assignment ∈ assignments, Fits assignment.2.2) :
    Yields (assignAll assignments) ItemsFit :=
  foldlM_yields (fun _ assignment hitems hvalue =>
    assign_yields assignment.1 assignment.2.1 hvalue hitems) itemsFit_nil h

/-! ## Values -/

/-- The three readers that call each other, by induction on the fuel that they share. -/
theorem readValue_readElements_readInline_yield (fuel : Nat) :
    (∀ levels text, Yields (readValue levels fuel text) fun made => Fits made.1) ∧
    (∀ levels text, Yields (readElements levels fuel text) fun made =>
      ∀ element ∈ made.1, Fits element) ∧
    (∀ levels first text, Yields (readInline levels fuel first text) fun made =>
      ∀ assignment ∈ made.1, Fits assignment.2.2) := by
  induction fuel with
  | zero => exact ⟨fun _ _ => yields_none, fun _ _ => yields_none, fun _ _ _ => yields_none⟩
  | succ fuel ih =>
    obtain ⟨hvalue, helements, hinline⟩ := ih
    refine ⟨fun levels text => ?_, fun levels text => ?_, fun levels first text => ?_⟩
    · rw [readValue.eq_def]
      dsimp only
      split
      · exact yields_none
      · next c rest =>
        split
        · exact (yields_trivially _).map fun _ _ => .string _
        · split
          · cases levels with
            | zero => exact yields_none
            | succ levels => exact (helements levels rest).map fun _ hmade => .sequence hmade
          · split
            · cases levels with
              | zero => exact yields_none
              | succ levels =>
                refine (hinline levels true rest).bind fun _ hmade => ?_
                exact (assignAll_yields hmade).bind fun _ hitems => yields_some hitems.data
            · split
              · exact yields_some (.boolean true)
              · split
                · exact yields_some (.boolean false)
                · exact (readMoment_yields _).orElse (readNumber_yields _)
    · rw [readElements]
      refine (yields_trivially _).bind fun text _ => ?_
      dsimp only
      split
      · exact yields_some nofun
      · refine (hvalue levels _).bind fun (element, rest) helement => ?_
        refine (yields_trivially _).bind fun text _ => ?_
        dsimp only
        split
        · exact yields_some (by simpa using helement)
        · refine (helements levels _).bind fun (elements, rest) hrest => ?_
          exact yields_some (List.forall_mem_cons.mpr ⟨helement, hrest⟩)
        · exact yields_none
    · rw [readInline.eq_def]
      dsimp only
      split
      · exact yields_some nofun
      · refine (yields_trivially _).bind fun (path, key, rest) _ => ?_
        refine (yields_trivially _).bind fun rest _ => ?_
        refine (hvalue levels _).bind fun (value, rest) hfits => ?_
        dsimp only
        split
        · exact yields_some (by simpa using hfits)
        · refine (hinline levels false _).bind fun (assignments, rest) hrest => ?_
          exact yields_some (List.forall_mem_cons.mpr ⟨hfits, hrest⟩)
        · exact yields_none

/-! ## Statements -/

/-- The value that is assigned fits. -/
def StatementFits : Statement → Prop
  | .assignment _ _ value => Fits value
  | _ => True

theorem readStatement_yields (text : List Char) :
    Yields (readStatement text) fun made => StatementFits made.1 := by
  rw [readStatement.eq_def]
  split
  · refine (yields_trivially _).bind fun _ _ => ?_
    refine (yields_trivially _).bind fun _ _ => ?_
    exact (yields_trivially _).bind fun _ _ => yields_some trivial
  · refine (yields_trivially _).bind fun _ _ => ?_
    exact (yields_trivially _).bind fun _ _ => yields_some trivial
  · refine (yields_trivially _).bind fun _ _ => ?_
    refine (yields_trivially _).bind fun _ _ => ?_
    exact ((readValue_readElements_readInline_yield _).1 _ _).bind fun _ hfits => yields_some hfits

theorem readStatements_yields (fuel : Nat) (text : List Char) :
    Yields (readStatements fuel text) fun statements =>
      ∀ statement ∈ statements, StatementFits statement := by
  induction fuel generalizing text with
  | zero => exact yields_none
  | succ fuel ih =>
    rw [readStatements]
    refine (yields_trivially _).bind fun text _ => ?_
    dsimp only
    split
    · exact yields_some nofun
    · refine (readStatement_yields _).bind fun (statement, rest) hfits => ?_
      refine (yields_trivially _).bind fun rest _ => ?_
      refine (ih rest).bind fun statements hrest => ?_
      exact yields_some (List.forall_mem_cons.mpr ⟨hfits, hrest⟩)

/-! ## Documents -/

/-- Every whole number of the tables fits. -/
structure Draft.Fits (draft : Draft) : Prop where
  root : ItemsFit draft.root
  items : ItemsFit draft.items

namespace Draft

variable {draft : Draft}

theorem close_yields (h : draft.Fits) : Yields draft.close ItemsFit := by
  rw [close.eq_def]
  cases draft.place with
  | top => exact yields_some h.items
  | header path key =>
    refine (descend_yields (fun _ => True) (fun _ items hitems => ?_) false path false h.root).map
      fun _ hmade => hmade.1
    exact yields_some ⟨forall_mem_insertEntry hitems (.table h.items), trivial⟩
  | another path key =>
    refine (descend_yields (fun _ => True) (fun _ items hitems => ?_) false path false h.root).map
      fun _ hmade => hmade.1
    split
    · next elements hlookup =>
      obtain ⟨item, hitem, hshape⟩ := exists_mem_of_lookupEntry hlookup
      have hnode := hitems item hitem
      rw [hshape] at hnode
      cases hnode with
      | tables helements =>
        refine yields_some ⟨forall_mem_insertEntry hitems (.tables fun items hmem => ?_), trivial⟩
        rcases List.mem_append.mp hmem with hmem | hmem
        · exact helements items hmem
        · rw [List.mem_singleton] at hmem
          exact hmem ▸ h.items
    · exact yields_none

theorem reopen_yields (key : String) (isDotted : Bool) {items : Items} (h : ItemsFit items) :
    Yields (reopen key isDotted items) fun made => ItemsFit made.1 ∧ ItemsFit made.2 := by
  rw [reopen]
  split
  · exact yields_some ⟨h, itemsFit_nil⟩
  · next child hlookup =>
    obtain ⟨item, hitem, hshape⟩ := exists_mem_of_lookupEntry hlookup
    have hnode := h item hitem
    rw [hshape] at hnode
    cases hnode with
    | table hchild =>
      have herased : ItemsFit (eraseEntry key items) := fun item hitem =>
        h item (List.mem_filter.mp hitem).1
      exact yields_some ⟨herased, hchild⟩
  · exact yields_none

theorem prepare_yields (key : String) (isDotted : Bool) {items : Items} (h : ItemsFit items) :
    Yields (prepare key isDotted items) fun made => ItemsFit made.1 ∧ True := by
  rw [prepare]
  split
  · exact yields_some ⟨forall_mem_insertEntry h (.tables nofun), trivial⟩
  · exact yields_some ⟨h, trivial⟩
  · exact yields_none

theorem apply_yields (h : draft.Fits) {statement : Statement} (hfits : StatementFits statement) :
    Yields (draft.apply statement) Draft.Fits := by
  cases statement with
  | assignment path key value =>
    exact (assign_yields path key hfits h.items).map fun _ hitems => ⟨h.root, hitems⟩
  | header path key =>
    refine (close_yields h).bind fun root hroot => ?_
    refine (descend_yields ItemsFit (fun isDotted _ => reopen_yields key isDotted) false path false
      hroot).bind fun (root, items) hmade => ?_
    exact yields_some ⟨hmade.1, hmade.2⟩
  | another path key =>
    refine (close_yields h).bind fun root hroot => ?_
    refine (descend_yields (fun _ => True) (fun isDotted _ => prepare_yields key isDotted) false
      path false hroot).bind fun (root, _) hmade => ?_
    exact yields_some ⟨hmade.1, itemsFit_nil⟩

end Draft

/-- Every whole number that is read from a document fits 64 bits with a sign. -/
theorem ofText_fits {text : List Char} {found : Datum} (h : ofText text = some found) :
    Fits found := by
  have hyields : Yields (ofText text) Fits := by
    have hempty : Draft.empty.Fits := ⟨itemsFit_nil, itemsFit_nil⟩
    refine (readStatements_yields _ _).bind fun statements hstatements => ?_
    refine (foldlM_yields (fun _ _ hfits => Draft.apply_yields hfits) hempty hstatements).bind
      fun draft hdraft => ?_
    exact (Draft.close_yields hdraft).bind fun items hitems => yields_some hitems.data
  exact hyields found h

end Integrity.Toml
