import Integrity.Table
import Integrity.Toml.Number

/-!
# TOML documents

A document is a sequence of statements: headers that open a table, and assignments to keys in the
table that is open. A table is written in one place: under one header, in one value, or by keys with
points in the place where they first come. Only a table that arose as a part of another header may
still get a header of its own.
-/

namespace Integrity.Toml

/-! ## Tables under construction -/

/-- What a key stands for while a document is read. -/
inductive Node where
  | value (value : Datum)
  /-- A table. It is implied while it has no header of its own, and dotted when it arose from a key
  with points. -/
  | table (implied dotted : Bool) (items : List (String × Node))
  /-- Several tables under one header. -/
  | tables (elements : List (List (String × Node)))

/-- The keys of a table with what they stand for. -/
abbrev Items : Type :=
  List (String × Node)

mutual

/-- What a node holds when the document is complete. -/
def Node.datum : Node → Datum
  | .value value => value
  | .table _ _ items => .mapping (itemData items)
  | .tables elements => .tables (elementData elements)

/-- What the items of a table hold. -/
def itemData : List (String × Node) → List (String × Datum)
  | [] => []
  | (key, node) :: rest => (key, node.datum) :: itemData rest

/-- What the tables under one header hold. -/
def elementData : List (List (String × Node)) → List Datum
  | [] => []
  | items :: rest => .mapping (itemData items) :: elementData rest

end

/-- Goes down a path and acts on the table at its end, which is told whether it is dotted. Tables
that are missing on the way arise; of several tables under one header the last is meant. -/
def descend {α : Type} (dotted : Bool) (act : Bool → Items → Option (Items × α)) :
    (path : List String) → (isDotted : Bool) → Items → Option (Items × α)
  | [], isDotted, items => act isDotted items
  | key :: path, _, items =>
    match lookupEntry key items with
    | none => do
      let (child, result) ← descend dotted act path dotted []
      some (insertEntry key (.table true dotted child) items, result)
    | some (.value _) => none
    | some (.tables elements) => do
      let last ← elements.getLast?
      let (child, result) ← descend dotted act path false last
      some (insertEntry key (.tables (elements.dropLast ++ [child])) items, result)
    | some (.table implied isDotted child) =>
      if dotted && !implied then none
      else do
        let (child, result) ← descend dotted act path isDotted child
        some (insertEntry key (.table implied isDotted child) items, result)

/-- Assigns a value to a key at the end of a path. -/
def assign (path : List String) (key : String) (value : Datum) (items : Items) : Option Items :=
  let act (isDotted : Bool) (items : Items) : Option (Items × Unit) :=
    if isDotted = path.isEmpty ∨ (lookupEntry key items).isSome then none
    else some (insertEntry key (.value value) items, ())
  (descend true act path false items).map Prod.fst

/-- Assigns values to keys, in order. -/
def assignAll (assignments : List (List String × String × Datum)) : Option Items :=
  assignments.foldlM (fun items (path, key, value) => assign path key value items) []

/-! ## Values -/

mutual

/-- Reads a value in which arrays and tables are nested at most `levels` deep. Each step uses up
some `fuel`. -/
def readValue (levels : Nat) : (fuel : Nat) → (text : List Char) → Option (Datum × List Char)
  | 0, _ => none
  | fuel + 1, text =>
    match text with
    | [] => none
    | c :: rest =>
      if c = '"' ∨ c = '\x27' then
        (readQuoted c rest).map fun (value, rest) => (.string value, rest)
      else if c = '[' then
        match levels with
        | 0 => none
        | levels + 1 =>
          (readElements levels fuel rest).map fun (elements, rest) => (.sequence elements, rest)
      else if c = '\x7b' then
        match levels with
        | 0 => none
        | levels + 1 => do
          let (assignments, rest) ← readInline levels fuel true rest
          let items ← assignAll assignments
          some (.mapping (itemData items), rest)
      else if text.take 4 = "true".toList then some (.boolean true, text.drop 4)
      else if text.take 5 = "false".toList then some (.boolean false, text.drop 5)
      else readMoment text <|> readNumber text

/-- Reads the elements of an array, up to its end. -/
def readElements (levels : Nat) : (fuel : Nat) → (text : List Char) →
    Option (List Datum × List Char)
  | 0, _ => none
  | fuel + 1, text => do
    match ← skipFiller false text with
    | ']' :: rest => some ([], rest)
    | text =>
      let (element, rest) ← readValue levels fuel text
      match ← skipFiller false rest with
      | ']' :: rest => some ([element], rest)
      | ',' :: rest =>
        let (elements, rest) ← readElements levels fuel rest
        some (element :: elements, rest)
      | _ => none

/-- Reads the assignments of a table in one line, up to its end. -/
def readInline (levels : Nat) : (fuel : Nat) → (first : Bool) → (text : List Char) →
    Option (List (List String × String × Datum) × List Char)
  | 0, _, _ => none
  | fuel + 1, first, text => do
    match first, skipBlanks text with
    | true, '\x7d' :: rest => some ([], rest)
    | _, text =>
      let (path, key, rest) ← readKey text
      let rest ← expect '=' rest
      let (value, rest) ← readValue levels fuel (skipBlanks rest)
      match skipBlanks rest with
      | '\x7d' :: rest => some ([(path, key, value)], rest)
      | ',' :: rest =>
        let (assignments, rest) ← readInline levels fuel false rest
        some ((path, key, value) :: assignments, rest)
      | _ => none

end

/-! ## Statements -/

/-- A statement of a document. -/
inductive Statement where
  | header (path : List String) (key : String)
  | another (path : List String) (key : String)
  | assignment (path : List String) (key : String) (value : Datum)

/-- Reads a statement. -/
def readStatement (text : List Char) : Option (Statement × List Char) :=
  match text with
  | '[' :: '[' :: rest => do
    let (path, key, rest) ← readKey rest
    let rest ← expect ']' rest
    let rest ← expect ']' rest
    some (.another path key, rest)
  | '[' :: rest => do
    let (path, key, rest) ← readKey rest
    let rest ← expect ']' rest
    some (.header path key, rest)
  | _ => do
    let (path, key, rest) ← readKey text
    let rest ← expect '=' rest
    let (value, rest) ← readValue (depthLimit - 1) (2 * text.length + 2) (skipBlanks rest)
    some (.assignment path key value, rest)

/-- Reads the statements of a document. -/
def readStatements : (fuel : Nat) → (text : List Char) → Option (List Statement)
  | 0, _ => none
  | fuel + 1, text => do
    match ← skipFiller false text with
    | [] => some []
    | text =>
      let (statement, rest) ← readStatement text
      let rest ← endLine rest
      let statements ← readStatements fuel rest
      some (statement :: statements)

/-! ## Documents -/

/-- Where the table that is open belongs. -/
inductive Place where
  | top
  | header (path : List String) (key : String)
  | another (path : List String) (key : String)

/-- A document under construction. -/
structure Draft where
  root : Items
  items : Items
  place : Place

namespace Draft

/-- The document before its first statement. -/
def empty : Draft :=
  ⟨[], [], .top⟩

/-- Puts the open table in its place. -/
def close (draft : Draft) : Option Items :=
  match draft.place with
  | .top => some draft.items
  | .header path key =>
    let act (_ : Bool) (items : Items) : Option (Items × Unit) :=
      some (insertEntry key (.table false false draft.items) items, ())
    (descend false act path false draft.root).map Prod.fst
  | .another path key =>
    let act (_ : Bool) (items : Items) : Option (Items × Unit) :=
      match lookupEntry key items with
      | some (.tables elements) =>
        some (insertEntry key (.tables (elements ++ [draft.items])) items, ())
      | _ => none
    (descend false act path false draft.root).map Prod.fst

/-- Takes an implied table out of its place, so that it can be opened; nothing is there when the key
is new. -/
def reopen (key : String) (_ : Bool) (items : Items) : Option (Items × Items) :=
  match lookupEntry key items with
  | none => some (items, [])
  | some (.table true false child) => some (eraseEntry key items, child)
  | some _ => none

/-- Makes a place for several tables under a key, unless there is one. -/
def prepare (key : String) (_ : Bool) (items : Items) : Option (Items × Unit) :=
  match lookupEntry key items with
  | none => some (insertEntry key (.tables []) items, ())
  | some (.tables _) => some (items, ())
  | some _ => none

/-- Carries out a statement. -/
def apply (draft : Draft) : Statement → Option Draft
  | .assignment path key value =>
    (assign path key value draft.items).map fun items => { draft with items }
  | .header path key => do
    let root ← draft.close
    let (root, items) ← descend false (reopen key) path false root
    some ⟨root, items, .header path key⟩
  | .another path key => do
    let root ← draft.close
    let (root, _) ← descend false (prepare key) path false root
    some ⟨root, [], .another path key⟩

end Draft

/-- The text without a byte order mark at its front. -/
def skipMark : List Char → List Char
  | '\ufeff' :: rest => rest
  | text => text

/-- Reads a document. -/
def ofText (text : List Char) : Option Datum := do
  let statements ← readStatements (text.length + 1) (skipMark text)
  let draft ← statements.foldlM Draft.apply Draft.empty
  let items ← draft.close
  some (.mapping (itemData items))

end Integrity.Toml
