import Integrity.Pattern.Piece

/-!
# Sets of characters in a pattern

A set stands between brackets. Its members are characters, ranges, classes and other sets; two sets
may be joined by an operator. What is read of a set is its height, that is, how deep sets and the
like are nested in it.
-/

namespace Integrity.Pattern

/-- The height of several parts side by side. -/
def heightOfAll : List Nat → Nat
  | [] => 0
  | [height] => height
  | heights => heights.foldl Nat.max 0 + 1

/-- The height of a set that is joined to the one on its left, if there is one. -/
def joined (left : Option Nat) (height : Nat) : Nat :=
  match left with
  | none => height
  | some left => Nat.max left height + 1

/-- The names of the classes of ASCII characters. -/
def classNames : List String := [
  "alnum", "alpha", "ascii", "blank", "cntrl", "digit", "graph", "lower", "print", "punct",
  "space", "upper", "word", "xdigit"]

/-- Reads a class after its bracket, such as `:alpha:]`, and whether it stands for all but the
class. -/
def readClass? : List Char → Option (Bool × List Char)
  | ':' :: text =>
    let negated := text.head? = some '^'
    let text := if negated then text.drop 1 else text
    let name := String.ofList (text.takeWhile fun c => c != ':')
    match text.dropWhile fun c => c != ':' with
    | ':' :: ']' :: rest => if classNames.contains name then some (negated, rest) else none
    | _ => none
  | _ => none

/-- The first character after a hyphen and the filler behind it. Of a comment only the mark counts
as filler. -/
def Mode.beyond (mode : Mode) (text : List Char) : Option Char :=
  if mode.isSpaced then
    match text.dropWhile Text.isBlank with
    | '#' :: rest => (rest.dropWhile Text.isBlank).head?
    | rest => rest.head?
  else text.head?

/-- Reads a character, or what a backslash and what follows it stand for. -/
def readMember (mode : Mode) : List Char → Option (Piece × List Char)
  | [] => none
  | '\\' :: rest => readEscape mode rest
  | c :: rest => some (.literal c false, rest)

/-- Whether a piece can be a member of a set. -/
def Mode.admits (mode : Mode) : Piece → Bool
  | .literal c _ => mode.admitsMember c
  | .shorthand negated => mode.admitsShorthand negated
  | .edge | .wordEdge => false

/-- Whether two pieces can be the ends of a range. -/
def Mode.admitsRange (mode : Mode) : Piece → Piece → Bool
  | .literal first _, .literal last _ =>
    mode.admitsMember first && mode.admitsMember last && first ≤ last
  | _, _ => false

/-- Reads a member of a set that is no set itself, or a range. A hyphen before another one, or
before the end of the set, makes no range. -/
def readMembers (mode : Mode) (text : List Char) : Option (List Char) := do
  let (first, rest) ← readMember mode text
  match mode.skip rest with
  | '-' :: after =>
    if mode.beyond after = some ']' ∨ mode.beyond after = some '-' then
      if mode.admits first then some ('-' :: after) else none
    else
      let (last, rest) ← readMember mode (mode.skip after)
      if mode.admitsRange first last then some rest else none
  | rest => if mode.admits first then some rest else none

/-- The text after the hyphens at its front, which stand for themselves, and how many there are. -/
def afterHyphens (mode : Mode) : (fuel : Nat) → (text : List Char) → Nat × List Char
  | 0, text => (0, text)
  | fuel + 1, text =>
    match text with
    | '-' :: rest =>
      let (count, rest) := afterHyphens mode fuel (mode.skip rest)
      (count + 1, rest)
    | text => (0, text)

/-- The text after the characters that stand for themselves at the front of a set, and how many
there are: hyphens, or else a closing bracket. -/
def afterFront (mode : Mode) (text : List Char) : Nat × List Char :=
  match afterHyphens mode text.length text with
  | (0, ']' :: rest) => (1, mode.skip rest)
  | front => front

mutual

/-- Reads a set after its opening bracket. -/
def readBracket (mode : Mode) : (fuel : Nat) → (text : List Char) → Option (Nat × List Char)
  | 0, _ => none
  | fuel + 1, text =>
    let text := mode.skip text
    let negated := text.head? = some '^'
    let text := if negated then mode.skip (text.drop 1) else text
    let (count, rest) := afterFront mode text
    if (negated ∧ !mode.admitsComplement) ∨ (0 < count ∧ !mode.admitsMember '-') then none
    else readItems mode fuel (List.replicate count 0) none rest

/-- Reads the members of a set, of which some have been read, up to its end. On the left there may
be another set and an operator. -/
def readItems (mode : Mode) : (fuel : Nat) → (heights : List Nat) → (left : Option Nat) →
    (text : List Char) → Option (Nat × List Char)
  | 0, _, _, _ => none
  | fuel + 1, heights, left, text =>
    match mode.skip text with
    | [] => none
    | '[' :: rest =>
      match readClass? rest with
      | some (negated, rest) =>
        if mode.admitsClass negated then readItems mode fuel (0 :: heights) left rest else none
      | none => do
        let (height, rest) ← readBracket mode fuel rest
        readItems mode fuel (height :: heights) left rest
    | ']' :: rest => some (joined left (heightOfAll heights) + 1, rest)
    | '&' :: '&' :: rest | '-' :: '-' :: rest | '~' :: '~' :: rest =>
      readItems mode fuel [] (some (joined left (heightOfAll heights))) rest
    | text => do readItems mode fuel (0 :: heights) left (← readMembers mode text)

end

end Integrity.Pattern
