import Integrity.Files.Error
import Integrity.Table

/-!
# Trees of files

Directories and text files below one root, with a directory from which relative paths start. A path
is followed name by name: every name but the last leads into a directory.
-/

namespace Integrity.Files

/-- Where something is: the names on the way from the root. -/
abbrev Place :=
  List String

/-- What is found at a place. -/
inductive Entry where
  | directory
  | file (text : String)
  /-- A file that stays empty whatever is written. -/
  | sink
deriving DecidableEq, Repr

/-- A tree of files. -/
structure Tree where
  /-- What is found where. The root is a directory without an entry. -/
  entries : Table Place Entry
  home : Place
deriving DecidableEq

/-- The largest number of bytes of a name. -/
def nameLimit : Nat :=
  255

/-- The number of bytes that no path reaches. -/
def pathLimit : Nat :=
  4096

/-- The names of a path, empty ones where slashes meet or end it. -/
def names (path : String) : List String :=
  path.splitOn "/"

namespace Tree

/-- What is found at a place. -/
def entry? (t : Tree) (place : Place) : Option Entry :=
  if place.isEmpty then some .directory else t.entries.get? place

/-- The directory that a name leads to from a directory. -/
def enter (t : Tree) (directory : Place) (name : String) : Except Error Place :=
  if name = "" ∨ name = "." then .ok directory
  else if name = ".." then .ok directory.dropLast
  else if nameLimit < name.utf8ByteSize then .error .nameTooLong
  else
    match t.entry? (directory ++ [name]) with
    | some .directory => .ok (directory ++ [name])
    | some _ => .error .notDirectory
    | none => .error .notFound

/-- The place to which the names of a path lead from a directory, for a path that may end in a
file. -/
def follow (t : Tree) (directory : Place) : List String → Except Error Place
  | [] => .error .isDirectory
  | [name] =>
    if name = "" ∨ name = "." ∨ name = ".." then .error .isDirectory
    else if nameLimit < name.utf8ByteSize then .error .nameTooLong
    else .ok (directory ++ [name])
  | name :: "" :: rest =>
    if rest.all String.isEmpty then .error .isDirectory
    else do t.follow (← t.enter directory name) rest
  | name :: rest => do t.follow (← t.enter directory name) rest

/-- The place of a file, whether it exists or not. -/
def locate (t : Tree) (path : String) : Except Error Place :=
  if path.contains '\x00' then .error .zeroCharacter
  else if path = "" then .error .notFound
  else if pathLimit ≤ path.utf8ByteSize then .error .nameTooLong
  else t.follow (if path.startsWith "/" then [] else t.home) (names path)

/-- The text of a file. -/
def read (t : Tree) (path : String) : Except Error String := do
  match t.entry? (← t.locate path) with
  | some (.file text) => return text
  | some .sink => return ""
  | some .directory => throw .isDirectory
  | none => throw .notFound

/-- Whether a path that ends in a name leads to something. -/
def holds (t : Tree) (path : String) : Bool :=
  match t.locate path with
  | .ok place => (t.entry? place).isSome
  | .error _ => false

/-- Changes the text of a file, which is made if it does not exist. -/
def update (t : Tree) (path : String) (change : String → String) : Except Error Tree := do
  let place ← t.locate path
  match t.entry? place with
  | some (.file text) =>
    return { t with entries := t.entries.insert place (.file (change text)) }
  | some .sink => return t
  | some .directory => throw .isDirectory
  | none => return { t with entries := t.entries.insert place (.file (change "")) }

/-- Replaces the text of a file. -/
def write (t : Tree) (path text : String) : Except Error Tree :=
  t.update path fun _ => text

/-- Adds to the text of a file. -/
def append (t : Tree) (path text : String) : Except Error Tree :=
  t.update path (· ++ text)

/-- The tree with a directory and all directories on the way to it. -/
def withDirectory (t : Tree) (place : Place) : Tree :=
  { t with
    entries :=
      (List.range place.length).foldl
        (fun entries n => entries.insert (place.take (n + 1)) .directory)
        t.entries }

/-- The tree with an entry and all directories on the way to it. -/
def withEntry (t : Tree) (place : Place) (entry : Entry) : Tree :=
  let t := t.withDirectory place.dropLast
  { t with entries := t.entries.insert place entry }

/-- A tree without files whose relative paths start from `home`. -/
def ofHome (home : Place) : Tree :=
  (Tree.mk Table.empty home).withDirectory home

/-- The names in the directory from which relative paths start. -/
def homeNames (t : Tree) : List String :=
  t.entries.entries.filterMap fun (place, _) =>
    if place.dropLast = t.home then place.getLast? else none

end Tree

end Integrity.Files
