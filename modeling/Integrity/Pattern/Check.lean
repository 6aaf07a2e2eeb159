import Integrity.Pattern.Bracket
import Integrity.Text.Letter

/-!
# Patterns that can be used

A pattern is read from the left: alternatives of pieces one after another, any of which may be
repeated, and groups of such alternatives. Switches hold up to the end of their group. Here no
repetition is counted, because a brace cannot stand in a pattern.
-/

namespace Integrity.Pattern

/-- Why a pattern cannot be used. -/
inductive Fault where
  | malformed
  | wordEdge
deriving DecidableEq, Repr

/-- A group that is being read, or the whole. -/
structure Group where
  outside : Mode
  alternatives : List Nat
  /-- The heights of the parts of the alternative that is being read, the last of them first.
  Switches are parts without a height. -/
  parts : List (Option Nat)
deriving DecidableEq, Repr

namespace Group

/-- A group of which nothing has been read. -/
def opened (outside : Mode) : Group :=
  ⟨outside, [], []⟩

/-- A group with one more part. -/
def push (group : Group) (part : Option Nat) : Group :=
  { group with parts := part :: group.parts }

/-- A group in which another alternative begins. -/
def divide (group : Group) : Group :=
  { group with
    alternatives := heightOfAll (group.parts.map fun part => part.getD 0) :: group.alternatives
    parts := [] }

/-- The height of what has been read of a group. -/
def height (group : Group) : Nat :=
  heightOfAll group.divide.alternatives

/-- A group whose last part is repeated. -/
def repeated? (group : Group) : Option Group :=
  match group.parts with
  | some height :: parts => some { group with parts := some (height + 1) :: parts }
  | _ => none

end Group

/-- What has been read of a pattern. -/
structure Progress where
  mode : Mode
  names : List (List Char)
  hasWordEdge : Bool
  group : Group
  /-- The groups around it, from the inside. -/
  around : List Group
deriving DecidableEq, Repr

namespace Progress

/-- Nothing has been read. -/
def start : Progress :=
  ⟨.start, [], false, .opened .start, []⟩

/-- One more part without parts of its own. -/
def push (p : Progress) (height : Nat) : Progress :=
  { p with group := p.group.push (some height) }

/-- A group opens, in which another mode may hold. -/
def enter (p : Progress) (mode : Mode) : Progress :=
  { p with mode, group := .opened p.mode, around := p.group :: p.around }

/-- The group closes. -/
def leave? (p : Progress) : Option Progress :=
  match p.around with
  | [] => none
  | outer :: around =>
    let group := outer.push (some (p.group.height + 1))
    some { p with mode := p.group.outside, group, around }

/-- A piece that holds no other. -/
def take? (p : Progress) : Piece → Option Progress
  | .literal c isByte => if p.mode.admitsLiteral c isByte then some (p.push 0) else none
  | .edge => some (p.push 0)
  | .wordEdge => some { p.push 0 with hasWordEdge := p.hasWordEdge || p.mode.isUniversal }
  | .shorthand negated => if p.mode.admitsShorthand negated then some (p.push 0) else none

end Progress

/-! ## Switches and names -/

/-- The letters of the switches, and the mark behind which they are off. -/
def switchMarks : List Char :=
  ['i', 'm', 's', 'U', 'u', 'R', 'x', '-']

/-- Whether switches are well formed: each stands there once, and something has to be off when the
mark is there. -/
def isSwitches (marks : List Char) : Bool :=
  marks.all switchMarks.contains && marks.Nodup && marks.getLast? != some '-'

/-- What switches make of one that has a letter. -/
def switched (marks : List Char) (letter : Char) (before : Bool) : Bool :=
  if (marks.takeWhile fun c => c != '-').contains letter then true
  else before && !marks.contains letter

/-- The mode after switches. -/
def Mode.switch (mode : Mode) (marks : List Char) : Mode :=
  ⟨switched marks 'i' mode.ignoresCase, switched marks 'u' mode.isUniversal,
    switched marks 'x' mode.isSpaced⟩

/-- Whether a text can be the name of a group. -/
def isGroupName : List Char → Bool
  | [] => false
  | first :: rest =>
    (first == '_' || Text.isLetter first) && rest.all fun c =>
      c == '_' || c == '.' || c == '[' || c == ']' || Text.isLetterOrDigit c

/-! ## Patterns -/

/-- Reads the name of a group, up to its closing bracket. -/
def readName (p : Progress) (text : List Char) : Option (Progress × List Char) :=
  let name := text.takeWhile fun c => c != '>'
  match text.dropWhile fun c => c != '>' with
  | [] => none
  | _ :: rest =>
    if isGroupName name ∧ !p.names.contains name then
      some ({ p with names := name :: p.names }.enter p.mode, rest)
    else none

/-- Reads switches, which hold for a group that they open, or for the rest of the one they stand in.
-/
def readSwitches (p : Progress) (text : List Char) : Option (Progress × List Char) :=
  let isMark (c : Char) : Bool := c != ':' && c != ')'
  let marks := text.takeWhile isMark
  let mode := p.mode.switch marks
  match text.dropWhile isMark with
  | ':' :: rest => if isSwitches marks then some (p.enter mode, rest) else none
  | ')' :: rest =>
    if isSwitches marks ∧ marks ≠ [] then
      some ({ p with mode, group := p.group.push none }, rest)
    else none
  | _ => none

/-- Reads how a group begins, after its parenthesis. -/
def readGroup (p : Progress) (text : List Char) : Option (Progress × List Char) :=
  match p.mode.skip text with
  | '?' :: 'P' :: '<' :: rest | '?' :: '<' :: rest => readName p rest
  | '?' :: rest => readSwitches p rest
  | rest => some (p.enter p.mode, rest)

/-- Reads the next piece. -/
def readPiece (p : Progress) : List Char → Option (Progress × List Char)
  | [] => none
  | c :: rest =>
    if c = '(' then readGroup p rest
    else if c = ')' then p.leave?.map fun p => (p, rest)
    else if c = '|' then some ({ p with group := p.group.divide }, rest)
    else if c = '[' then
      (readBracket p.mode (rest.length + 1) rest).map fun (height, rest) => (p.push height, rest)
    else if c = '?' ∨ c = '*' ∨ c = '+' then
      p.group.repeated?.map fun group => ({ p with group }, rest)
    else if c = '\x7b' then none
    else if c = '\\' then do
      let (piece, rest) ← readEscape p.mode rest
      return (← p.take? piece, rest)
    else if c = '.' then if p.mode.isUniversal then some (p.push 0, rest) else none
    else if c = '^' ∨ c = '$' then some (p.push 0, rest)
    else (p.take? (.literal c false)).map fun p => (p, rest)

/-- Reads all pieces. Each of them uses up some `fuel`. -/
def readAll : (fuel : Nat) → Progress → List Char → Option Progress
  | 0, _, _ => none
  | fuel + 1, p, text =>
    match p.mode.skip text with
    | [] => some p
    | text => do
      let (p, rest) ← readPiece p text
      readAll fuel p rest

/-- How high a pattern may be. -/
def heightLimit : Nat :=
  250

/-- Checks that a pattern can be used. -/
def check (text : List Char) : Except Fault Unit :=
  match readAll (text.length + 1) .start text with
  | none => .error .malformed
  | some p =>
    if p.around ≠ [] ∨ heightLimit < p.group.height then .error .malformed
    else if p.hasWordEdge then .error .wordEdge
    else .ok ()

end Integrity.Pattern
