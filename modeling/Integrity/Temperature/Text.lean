import Integrity.Json.Writer
import Integrity.Simulation.Ticks
import Integrity.Text.Numeral

/-!
# Bounds as text

Bounds are written as an object with the two numbers. They are read from such an object, its members
in any order, or from an array of the two. Neither way is it asked whether they bound temperatures.
-/

namespace Integrity.Temperature.Bounds

open Json (ReadError)

/-- The bounds as an object. -/
def write (bounds : Bounds) : List Char :=
  Json.writeObject [("min", Numeral.ofInt bounds.min), ("max", Numeral.ofInt bounds.max)]

/-- The bounds that have been read. -/
structure Known where
  min : Option Int
  max : Option Int

/-- Reads a member of the bounds, from after its key. -/
def readMember (fuel : Nat) (known : Known) (key : String) (text : List Char) :
    Except ReadError (Known × List Char) :=
  if key = "min" then
    (Signals.readOnce known.min text).map fun (n, rest) => ({ known with min := some n }, rest)
  else if key = "max" then
    (Signals.readOnce known.max text).map fun (n, rest) => ({ known with max := some n }, rest)
  else (Json.skipMember fuel text).map fun rest => (known, rest)

/-- Reads the members of the bounds, from after the brace. -/
def readMembers (fuel : Nat) (text : List Char) : Except ReadError (Bounds × List Char) := do
  let (known, rest) ← Json.foldMembers (readMember fuel) fuel true ⟨none, none⟩ text
  let min ← Json.required known.min
  let max ← Json.required known.max
  return (⟨min, max⟩, rest)

/-- Reads an element of an array that has to have one more. -/
def readElement (first : Bool) (text : List Char) : Except ReadError (Int × List Char) := do
  match ← Json.nextElement first text with
  | .done _ => throw .mismatched
  | .more text => Json.readInteger text

/-- Reads the bounds that are elements, from after the bracket. -/
def readElements (text : List Char) : Except ReadError (Bounds × List Char) := do
  let (min, text) ← readElement true text
  let (max, text) ← readElement false text
  let rest ← Json.endArray text
  return (⟨min, max⟩, rest)

/-- Reads bounds. -/
def read (fuel : Nat) (text : List Char) : Except ReadError (Bounds × List Char) :=
  match Json.skipBlanks text with
  | [] => .error .truncated
  | c :: rest =>
    if c = '{' then readMembers fuel rest
    else if c = '[' then readElements rest
    else .error (Json.mismatch (c :: rest))

/-- Reads a text that holds bounds. -/
def ofText (text : List Char) : Except ReadError Bounds := do
  let (bounds, rest) ← read (Json.fuelFor text) text
  Json.endText rest
  return bounds

end Integrity.Temperature.Bounds
