import Integrity.Json.Value
import Integrity.Temperature.ControlLaw

/-!
# Reading JSON of a known kind

Where one kind of value is asked for, a value of another kind is read as far as it takes to see that
it is JSON, and then refused. Numbers of 128 bits are whole numbers and nothing else, so that any
other text in their place is a fault of the text.
-/

namespace Integrity.Json

/-- The fault of a value that starts like this and is not of the kind asked for. -/
def mismatch (text : List Char) : ReadError :=
  let outcome : Except ReadError Unit :=
    match text with
    | [] => .error .malformed
    | c :: rest =>
      if c = 'n' then (readWord "ull".toList rest).map fun _ => ()
      else if c = 't' then (readWord "rue".toList rest).map fun _ => ()
      else if c = 'f' then (readWord "alse".toList rest).map fun _ => ()
      else if c = '"' then (readString true .plain rest).map fun _ => ()
      else if c = '[' ∨ c = '{' then .ok ()
      else if startsNumber c then (readNumberValue text).map fun _ => ()
      else .error .malformed
  match outcome with
  | .error error => error
  | .ok () => .mismatched

/-- Reads a string. -/
def readText (text : List Char) : Except ReadError (String × List Char) :=
  match skipBlanks text with
  | [] => .error .truncated
  | c :: rest =>
    if c = '"' then
      (readString true .plain rest).map fun (chars, rest) => (String.ofList chars, rest)
    else .error (mismatch (c :: rest))

/-- Reads a truth value. -/
def readFlag (text : List Char) : Except ReadError (Bool × List Char) :=
  match skipBlanks text with
  | [] => .error .truncated
  | c :: rest =>
    if c = 't' then (readWord "rue".toList rest).map fun rest => (true, rest)
    else if c = 'f' then (readWord "alse".toList rest).map fun rest => (false, rest)
    else .error (mismatch (c :: rest))

/-- Reads a number without a sign that is at most `most`. -/
def readNatural (most : Nat) (text : List Char) : Except ReadError (Nat × List Char) :=
  match skipBlanks text with
  | [] => .error .truncated
  | c :: rest =>
    if startsNumber c then
      match readNumberValue (c :: rest) with
      | .error error => .error error
      | .ok (.integer n, rest) =>
        if 0 ≤ n ∧ n.toNat ≤ most then .ok (n.toNat, rest) else .error .mismatched
      | .ok _ => .error .mismatched
    else .error (mismatch (c :: rest))

/-- A whole number after its sign. -/
def readUnsigned (negative : Bool) (text : List Char) : Except ReadError (Int × List Char) := do
  let (digits, rest) ← readWhole .malformed text
  let n : Int := Numeral.value digits
  let n := if negative then -n else n
  if Temperature.FitsWord128 n then return (n, rest) else throw .malformed

/-- Reads a whole number of 128 bits. -/
def readInteger (text : List Char) : Except ReadError (Int × List Char) :=
  match skipBlanks text with
  | [] => .error .truncated
  | '-' :: rest => readUnsigned true rest
  | text => readUnsigned false text

/-- Reads `null`. -/
def readNull (text : List Char) : Except ReadError (List Char) :=
  match skipBlanks text with
  | [] => .error .truncated
  | c :: rest =>
    if c = 'n' then readWord "ull".toList rest else .error (mismatch (c :: rest))

/-- A name that has to be known. -/
def chosen {α : Type} (choose : String → Option α) (name : String) : Except ReadError α :=
  match choose name with
  | some choice => .ok choice
  | none => .error .mismatched

/-- Reads one of several names: as a string, or as the only key of an object whose value is
`null`. -/
def readChoice {α : Type} (choose : String → Option α) (text : List Char) :
    Except ReadError (α × List Char) :=
  match skipBlanks text with
  | [] => .error .truncated
  | c :: rest =>
    if c = '"' then do
      let (name, rest) ← readText (c :: rest)
      let choice ← chosen choose name
      return (choice, rest)
    else if c = '{' then do
      let (name, text) ← readText rest
      let choice ← chosen choose name
      let text ← readColon text
      let text ← readNull text
      match skipBlanks text with
      | [] => throw .truncated
      | c :: rest => if c = '}' then return (choice, rest) else throw .malformed
    else .error .malformed

/-- Reads the members of an object, up to its end, with a state that each member changes. A member
is read from after its key, so that a key can be refused before its value is read. -/
def foldMembers {σ : Type} (member : σ → String → List Char → Except ReadError (σ × List Char)) :
    (fuel : Nat) → (first : Bool) → (state : σ) → (text : List Char) →
    Except ReadError (σ × List Char)
  | 0, _, _, _ => .error .malformed
  | fuel + 1, first, state, text =>
    match nextKey first text with
    | .error error => .error error
    | .ok (.done rest) => .ok (state, rest)
    | .ok (.more text) => do
      let (key, text) ← readString true .plain text
      let (state, text) ← member state (String.ofList key) text
      foldMembers member fuel false state text

/-- The text after a member that is not wanted, read from after its key. -/
def skipMember (fuel : Nat) (text : List Char) : Except ReadError (List Char) := do
  skipValue fuel (← readColon text)

/-- A part that has to be there. -/
def required {α : Type} : Option α → Except ReadError α
  | some value => .ok value
  | none => .error .mismatched

end Integrity.Json
