import Integrity.Config.Decode

/-!
# Patched configurations

A configuration as data can be patched: mappings are merged entry by entry, and anything else is
replaced. What comes out is read again, the entries of a mapping in the order of their keys.
-/

namespace Integrity.Config

/-- An address. -/
def addressDatum (address : Address) : Datum :=
  .string address.toString

/-- A configuration as data. -/
def datum (c : Config) : Datum :=
  .mapping [
    ("temperature", .mapping [
      ("authority", addressDatum c.temperature.authority),
      ("initial_temperature", .integer c.temperature.initial.toInt),
      ("min_bound", .integer c.temperature.minBound.toInt),
      ("max_bound", .integer c.temperature.maxBound.toInt),
      ("kp", .integer c.temperature.kp.toInt),
      ("ki", .integer c.temperature.ki.toInt),
      ("kd", .integer c.temperature.kd.toInt)]),
    ("audit", .mapping [
      ("authority", addressDatum c.audit.authority),
      ("notifier", addressDatum c.audit.notifier),
      ("probability_bps", .integer c.audit.probability.toNat),
      ("penalty_amount", .integer c.audit.penalty.units),
      ("auditors", .sequence (c.audit.auditors.map addressDatum)),
      ("reschedule_policy", .string c.audit.policy.name),
      ("block_interval_secs", .integer c.audit.blockInterval.toNat)]),
    ("disputes", .mapping [
      ("authority", addressDatum c.disputes.authority),
      ("appeal_bond", .integer c.disputes.appealBond.units),
      ("min_jury_size", .integer c.disputes.minJurySize.toNat),
      ("resolution_authority", addressDatum c.disputes.judge),
      ("escrow_account", addressDatum c.disputes.escrowAccount)]),
    ("logging", .mapping [
      ("level", .string c.logging.level),
      ("format", .string c.logging.format),
      ("file_output", (c.logging.file.map Datum.string).getD .null),
      ("module_filters",
        .mapping (c.logging.moduleFilters.entries.map fun (key, value) => (key, .string value)))])]

/-- Puts an entry in its place among entries in the order of their keys, over one with its key. -/
def insertSorted (key : String) (value : Datum) : List (String × Datum) → List (String × Datum)
  | [] => [(key, value)]
  | (k, v) :: rest =>
    if key = k then (key, value) :: rest
    else if key < k then (key, value) :: (k, v) :: rest
    else (k, v) :: insertSorted key value rest

mutual

/-- The same data with the entries of all mappings in the order of their keys. -/
def sorted : Datum → Datum
  | .mapping entries => .mapping (sortedEntries [] entries)
  | .sequence elements => .sequence (sortedElements elements)
  | datum => datum

/-- Sorted entries with others among them. -/
def sortedEntries (done : List (String × Datum)) : List (String × Datum) → List (String × Datum)
  | [] => done
  | (key, value) :: rest => sortedEntries (insertSorted key (sorted value) done) rest

/-- Elements with the entries of all mappings in the order of their keys. -/
def sortedElements : List Datum → List Datum
  | [] => []
  | element :: rest => sorted element :: sortedElements rest

end

mutual

/-- Data under a patch. -/
def patched (base : Datum) : (patch : Datum) → Datum
  | .mapping changes =>
    match base with
    | .mapping entries => .mapping (patchedEntries entries changes)
    | _ => .mapping changes
  | patch => patch

/-- Entries under changes. -/
def patchedEntries (entries : List (String × Datum)) :
    (changes : List (String × Datum)) → List (String × Datum)
  | [] => entries
  | (key, change) :: rest =>
    let value :=
      match lookupEntry key entries with
      | some value => patched value change
      | none => change
    patchedEntries (insertEntry key value entries) rest

end

/-- A configuration under a patch. -/
def patch (c : Config) (changes : Datum) : Except DecodeError Config :=
  ofDatum .json (sorted (patched c.datum changes))

end Integrity.Config
