import Integrity.Pattern.Check

/-!
# Filters of the log

A directive says from which level on a part of the program is logged: `part[span{field,…}]=level`,
where everything but one name may be missing. A field may have a value, which is a number, a truth
value or a pattern. Blanks around a directive are not part of it. Its pieces are measured without
the blanks before it, and are then cut out of the text with these blanks.
-/

namespace Integrity.Logging

/-- Why a text is no directive. -/
inductive FilterError where
  | malformed
  | level
  | value (cause : Pattern.Fault)
  | splitCharacter
deriving DecidableEq, Repr

/-- What is said about a text that is no directive. Nothing can be said about a split character. -/
def FilterError.message : FilterError → String
  | malformed => "invalid filter directive"
  | level =>
    "error parsing level filter: expected one of \"off\", \"error\", \"warn\", \"info\", "
      ++ "\"debug\", \"trace\", or a number 0-5"
  | value .malformed => "invalid field filter: error building NFA"
  | value .wordEdge =>
    "invalid field filter: unsupported regex feature for DFAs: cannot build DFAs for regexes with "
      ++ "Unicode word boundaries; switch to ASCII word boundaries, or heuristically enable "
      ++ "Unicode word boundaries or use a different regex engine"
  | splitCharacter => ""

/-! ## Pieces of a directive -/

/-- The text after some bytes, unless they end within a character. -/
def dropBytes : List Char → (count : Nat) → Option (List Char)
  | text, 0 => some text
  | [], _ => some []
  | c :: rest, count => if c.utf8Size ≤ count then dropBytes rest (count - c.utf8Size) else none

/-- The text before the end of some bytes, unless they end within a character. -/
def takeBytes : List Char → (count : Nat) → Option (List Char)
  | _, 0 => some []
  | [], _ => some []
  | c :: rest, count =>
    if c.utf8Size ≤ count then (takeBytes rest (count - c.utf8Size)).map (c :: ·) else none

/-- The text between two offsets in bytes. -/
def cut (text : List Char) (start stop : Nat) : Except FilterError (List Char) :=
  match (dropBytes text start).bind fun rest => takeBytes rest (stop - start) with
  | some piece => .ok piece
  | none => .error .splitCharacter

/-- The text from an offset on. -/
def cutFrom (text : List Char) (start : Nat) : Except FilterError (List Char) :=
  match dropBytes text start with
  | some piece => .ok piece
  | none => .error .splitCharacter

/-! ## Levels and values -/

/-- The names of the levels. -/
def levelNames : List String :=
  ["off", "error", "warn", "info", "debug", "trace"]

/-- Whether a text is a level: its name, in ASCII letters of either case, or its number. -/
def isLevel (text : List Char) : Bool :=
  let digits := if text.head? = some '+' then text.tail else text
  levelNames.any (fun name => name.toList == text.map Char.toLower)
    || (!digits.isEmpty && digits.all Char.isDigit && Numeral.value digits ≤ 5)

/-- Checks a level. One that is missing stands for the lowest. -/
def checkLevel (text : List Char) : Except FilterError Unit :=
  if text.isEmpty || isLevel text then .ok () else .error .level

/-- The words for numbers that have no digits. -/
def numberWords : List String :=
  ["inf", "infinity", "nan"]

/-- Whether a text is the exponent of a number, or empty. -/
def isExponent : List Char → Bool
  | [] => true
  | mark :: text =>
    let digits := if text.head? = some '-' ∨ text.head? = some '+' then text.tail else text
    (mark == 'e' || mark == 'E') && !digits.isEmpty && digits.all Char.isDigit

/-- Whether a text is a number, with a sign, a point and an exponent or without. -/
def isNumber (text : List Char) : Bool :=
  let text := if text.head? = some '-' ∨ text.head? = some '+' then text.tail else text
  let (places, rest) :=
    match Numeral.trailing text with
    | '.' :: rest => (Numeral.leading rest, Numeral.trailing rest)
    | rest => ([], rest)
  numberWords.any (fun word => word.toList == text.map Char.toLower)
    || (!(Numeral.leading text ++ places).isEmpty && isExponent rest)

/-- Checks the value of a field. Truth values are patterns, too. -/
def checkValue (text : List Char) : Except FilterError Unit :=
  if isNumber text then .ok () else (Pattern.check text).mapError .value

/-- Checks a field. Its value stands between the first equals sign and the second. -/
def checkField (text : List Char) : Except FilterError Unit :=
  match text.dropWhile fun c => c != '=' with
  | [] => .ok ()
  | _ :: rest => checkValue (rest.takeWhile fun c => c != '=')

/-! ## Directives -/

/-- How far a directive has been read. -/
inductive Stage where
  | start
  | part
  | span (offset : Nat)
  | field (offset : Nat)
  | fields
  | target
  | level (offset : Nat)
  | complete
deriving DecidableEq, Repr

/-- Whether a character may begin the name of a part. -/
def startsPart (c : Char) : Bool :=
  c == '-' || c == ':' || c == '_' || Text.isLetterOrDigit c

/-- The end of a name between two offsets. -/
def finishName (text : List Char) (start stop : Nat) (next : Stage) : Except FilterError Stage :=
  (cut text start stop).map fun _ => next

/-- The end of a field between two offsets, which may not be empty. -/
def finishField (text : List Char) (start stop : Nat) (next : Stage) :
    Except FilterError Stage := do
  let field ← cut text start stop
  if field.isEmpty then throw .malformed
  checkField field
  return next

/-- Reads the character at an offset. -/
def advance (text : List Char) (offset : Nat) (c : Char) : Stage → Except FilterError Stage
  | .start =>
    if c = '[' then .ok (.span (offset + 1))
    else if startsPart c then .ok .part
    else .error .malformed
  | .part =>
    if c = '=' then finishName text 0 offset (.level (offset + 1))
    else if c = '[' then finishName text 0 offset (.span (offset + 1))
    else if c = ',' then .ok .complete
    else .ok .part
  | .span start =>
    if c = ']' then finishName text start offset .target
    else if c = '{' then finishName text start offset (.field (offset + 1))
    else .ok (.span start)
  | .field start =>
    if c = '}' then finishField text start offset .fields
    else if c = ',' then finishField text start offset (.field (offset + 1))
    else .ok (.field start)
  | .fields => if c = ']' then .ok .target else .error .malformed
  | .target => if c = '=' then .ok (.level (offset + 1)) else .error .malformed
  | .level start =>
    if c = ',' then do
      checkLevel (← cut text start offset)
      return .complete
    else .ok (.level start)
  | .complete => .error .malformed

/-- Reads characters, the first of which has an offset in bytes. -/
def advanceAll (text : List Char) : (offset : Nat) → List Char → Stage → Except FilterError Stage
  | _, [], stage => .ok stage
  | offset, c :: rest, stage => do
    advanceAll text (offset + c.utf8Size) rest (← advance text offset c stage)

/-- Checks a directive. -/
def checkDirective (directive : List Char) : Except FilterError Unit := do
  match ← advanceAll directive 0 (Text.trim directive) .start with
  | .part | .target | .complete => return ()
  | .level start => checkLevel (← cutFrom directive start)
  | _ => throw .malformed

/-- Checks the levels of single modules. -/
def checkFilters (filters : List (String × String)) : Except FilterError Unit :=
  filters.forM fun (part, level) => checkDirective (part.toList ++ '=' :: level.toList)

end Integrity.Logging
