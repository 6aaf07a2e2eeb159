import Integrity.Number.Notation

/-!
# Data of any shape

What a text in one of the data formats denotes. The entries of a mapping keep their order.
-/

namespace Integrity

/-- A piece of data. -/
inductive Datum where
  | null
  | boolean (value : Bool)
  | integer (value : Int)
  | real (value : Number.Binary64)
  /-- A date, a time, or both, as it is written. -/
  | moment (value : String)
  | string (value : String)
  | sequence (elements : List Datum)
  /-- A sequence of mappings, each of which is opened by a header of its own. -/
  | tables (elements : List Datum)
  | mapping (entries : List (String × Datum))
deriving Inhabited

/-- The value of the first entry with a key. -/
def Datum.entry? (key : String) : Datum → Option Datum
  | .mapping entries => (entries.find? fun entry => entry.1 == key).map Prod.snd
  | _ => none

end Integrity
