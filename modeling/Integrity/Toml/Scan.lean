import Integrity.Text.Numeral

/-!
# Parts of TOML text

The parts that do not contain one another: blanks, comments, line ends, strings and keys. A text
that is not TOML is refused without a reason.
-/

namespace Integrity.Toml

/-- Whether a character is a blank within a line. -/
def isBlank (c : Char) : Bool :=
  c == ' ' || c == '\t'

/-- The text after the blanks at its front. -/
def skipBlanks (text : List Char) : List Char :=
  text.dropWhile isBlank

/-- Whether a character may stand in a comment or, up to quotes and escapes, in a string. -/
def isPrintable (c : Char) : Bool :=
  c == '\t' || (0x20 ≤ c.toNat && c.toNat != 0x7F)

/-- The text after the end of a line, which is a line feed with or without a carriage return. -/
def newline? : List Char → Option (List Char)
  | '\n' :: rest => some rest
  | '\r' :: '\n' :: rest => some rest
  | _ => none

/-- The text after blanks, line ends and comments. -/
def skipFiller (inComment : Bool) : List Char → Option (List Char)
  | [] => some []
  | c :: rest =>
    if c = '\n' then skipFiller false rest
    else if c = '\r' then
      if rest.head? = some '\n' then skipFiller inComment rest else none
    else if inComment then
      if isPrintable c then skipFiller true rest else none
    else if isBlank c then skipFiller false rest
    else if c = '#' then skipFiller true rest
    else some (c :: rest)

/-- The text after the rest of a line that holds at most a comment. -/
def endLine (text : List Char) : Option (List Char) :=
  match skipBlanks text with
  | [] => some []
  | '#' :: rest =>
    match rest.dropWhile isPrintable with
    | [] => some []
    | rest => newline? rest
  | rest => newline? rest

/-! ## Strings -/

/-- How a string is written. -/
structure StringStyle where
  /-- The quote on either side; escapes stand between double quotes only. -/
  quote : Char
  /-- Whether it stands between three quotes and may have line ends. -/
  multiline : Bool

/-- Where the reading of a string stands. -/
inductive StringMode where
  | plain
  | escaped
  | digits (missing : Nat) (value : Nat)
  | lineEnd
  | indent

/-- What the next character does. -/
inductive StringStep where
  | emit (c : Char)
  | go (mode : StringMode)
  | stop
  | fail

/-- What a quote does with `rest` after it. Of a run of quotes in a string of several lines the last
three end it, and at most two before them belong to it. -/
def quoteStep (style : StringStyle) (rest : List Char) : StringStep :=
  let run := (rest.takeWhile fun c => c == style.quote).length + 1
  if !style.multiline then .stop
  else if 6 ≤ run then .fail
  else if run = 3 then .stop
  else .emit style.quote

/-- What a character between characters does. -/
def plainStep (style : StringStyle) (c : Char) (rest : List Char) : StringStep :=
  if c = style.quote then quoteStep style rest
  else if c = '\\' ∧ style.quote = '"' then .go .escaped
  else if style.multiline ∧ c = '\n' then .emit '\n'
  else if style.multiline ∧ c = '\r' then
    if rest.head? = some '\n' then .go .plain else .fail
  else if isPrintable c then .emit c
  else .fail

/-- What the end of a line after a backslash does. -/
def lineEndStep (c : Char) (rest : List Char) : StringStep :=
  if c = '\n' then .go .indent
  else if c = '\r' ∧ rest.head? = some '\n' then .go .lineEnd
  else if isBlank c then .go .lineEnd
  else .fail

/-- What the character after a backslash does. -/
def escapedStep (style : StringStyle) (c : Char) (rest : List Char) : StringStep :=
  if c = '"' ∨ c = '\\' then .emit c
  else if c = 'b' then .emit '\x08'
  else if c = 'f' then .emit '\x0c'
  else if c = 'n' then .emit '\n'
  else if c = 'r' then .emit '\r'
  else if c = 't' then .emit '\t'
  else if c = 'u' then .go (.digits 3 0)
  else if c = 'U' then .go (.digits 7 0)
  else if style.multiline then lineEndStep c rest
  else .fail

/-- The character of a code point, unless it is half of a pair or too large. -/
def codePointStep (code : Nat) : StringStep :=
  if h : code.isValidChar then .emit (Char.ofNatAux code h) else .fail

/-- What a character does in a mode, with `rest` after it. -/
def stringStep (style : StringStyle) (mode : StringMode) (c : Char) (rest : List Char) :
    StringStep :=
  match mode with
  | .plain => plainStep style c rest
  | .escaped => escapedStep style c rest
  | .digits missing value =>
    match Numeral.hexDigit? c, missing with
    | none, _ => .fail
    | some digit, 0 => codePointStep (16 * value + digit)
    | some digit, missing + 1 => .go (.digits missing (16 * value + digit))
  | .lineEnd => lineEndStep c rest
  | .indent =>
    if isBlank c ∨ c = '\n' ∨ (c = '\r' ∧ rest.head? = some '\n') then .go .indent
    else plainStep style c rest

/-- Reads a string from a mode on, up to its closing quotes. -/
def readString (style : StringStyle) : StringMode → List Char → Option (List Char × List Char)
  | _, [] => none
  | mode, c :: rest =>
    match stringStep style mode c rest with
    | .fail => none
    | .stop => some ([], if style.multiline then rest.drop 2 else rest)
    | .go mode => readString style mode rest
    | .emit d => (readString style .plain rest).map fun (chars, rest) => (d :: chars, rest)

/-- Reads a string of one line, from after its opening quote. -/
def readLine (quote : Char) (text : List Char) : Option (String × List Char) :=
  (readString ⟨quote, false⟩ .plain text).map fun (chars, rest) => (String.ofList chars, rest)

/-- Reads a string of several lines, from after its opening quotes. A line end that follows them at
once does not count. -/
def readLines (quote : Char) (text : List Char) : Option (String × List Char) :=
  (readString ⟨quote, true⟩ .plain ((newline? text).getD text)).map fun (chars, rest) =>
    (String.ofList chars, rest)

/-- Reads a string, from after its first quote. -/
def readQuoted (quote : Char) (text : List Char) : Option (String × List Char) :=
  match text with
  | c₁ :: c₂ :: rest =>
    if c₁ = quote ∧ c₂ = quote then readLines quote rest else readLine quote text
  | _ => readLine quote text

/-! ## Keys -/

/-- Whether a character may stand in a key without quotes. -/
def isBare (c : Char) : Bool :=
  c.isAlphanum || c == '-' || c == '_'

/-- Reads one part of a key. -/
def readSimpleKey (text : List Char) : Option (String × List Char) :=
  match text with
  | '"' :: rest => readLine '"' rest
  | '\x27' :: rest => readLine '\x27' rest
  | _ =>
    match text.takeWhile isBare with
    | [] => none
    | bare => some (String.ofList bare, text.dropWhile isBare)

/-- Reads the parts of a key, with points between them. -/
def readParts : (fuel : Nat) → (text : List Char) → Option (List String × List Char)
  | 0, _ => none
  | fuel + 1, text => do
    let (part, rest) ← readSimpleKey (skipBlanks text)
    match skipBlanks rest with
    | '.' :: rest =>
      let (parts, rest) ← readParts fuel rest
      some (part :: parts, rest)
    | rest => some ([part], rest)

/-- The number of parts that a key stays below, and the nesting that values stay below. -/
def depthLimit : Nat :=
  80

/-- Reads a key: the tables on the way to it, its own name, and the text after it. -/
def readKey (text : List Char) : Option (List String × String × List Char) := do
  let (parts, rest) ← readParts (text.length + 1) text
  let name ← parts.getLast?
  if parts.length < depthLimit then some (parts.dropLast, name, rest) else none

/-- The text after a character that has to come. -/
def expect (c : Char) : List Char → Option (List Char)
  | d :: rest => if d = c then some rest else none
  | [] => none

end Integrity.Toml
