/-!
# Switches

A switch is given by one letter after `-` or by its name after `--`. Switches of one letter may
share a dash. A value follows as the next argument, after `=`, or right after the letter. Arguments
are read from left to right, and the first that decides how reading ends does so.
-/

namespace Integrity.CommandLine

/-- What a switch looks like. -/
structure Form where
  letter : Option Char
  name : String
  /-- What stands for its value in a usage text, if it takes one. -/
  placeholder : Option String
  /-- Whether giving it more often means more. -/
  isCounted : Bool
  purpose : String
deriving DecidableEq, Repr

/-- A switch of a command with settings of type `σ`. -/
structure Switch (σ : Type) extends Form where
  /-- The settings with its value, which is empty when it takes none; nothing when the value is not
  accepted. -/
  apply : String → σ → Option σ

/-- The switch that asks for help. -/
def Form.help : Form :=
  ⟨some 'h', "help", none, false, "Print help"⟩

/-- How reading arguments ends. -/
inductive Reading (σ : Type) where
  | help
  | refused
  | ended (settings : σ)
  | word (settings : σ) (word : String) (rest : List String)

/-- How reading the letters after one dash ends. -/
inductive LetterReading (σ : Type) where
  | help
  | refused
  | ended (settings : σ)
  | waiting (settings : σ) (switch : Switch σ)

variable {σ : Type}

/-- A value without one `=` at its front. -/
def unassigned : List Char → List Char
  | '=' :: rest => rest
  | value => value

/-- Reads the letters after one dash. -/
def readLetters (switches : List (Switch σ)) (settings : σ) : List Char → LetterReading σ
  | [] => .ended settings
  | letter :: rest =>
    if Form.help.letter = some letter then .help
    else
      match switches.find? fun switch => switch.letter == some letter with
      | none => .refused
      | some switch =>
        if switch.placeholder.isNone then
          match switch.apply "" settings with
          | some settings => readLetters switches settings rest
          | none => .refused
        else if rest.isEmpty then .waiting settings switch
        else
          match switch.apply (String.ofList (unassigned rest)) settings with
          | some settings => .ended settings
          | none => .refused

/-- Reads what follows two dashes: a name, and a value if there is a `=`. -/
def readName (switches : List (Switch σ)) (settings : σ) (text : List Char) : LetterReading σ :=
  let name := String.ofList (text.takeWhile (· != '='))
  let value : Option String :=
    match text.dropWhile (· != '=') with
    | [] => none
    | _ :: value => some (String.ofList value)
  if name = Form.help.name then if value.isNone then .help else .refused
  else
    match switches.find? fun switch => switch.name == name with
    | none => .refused
    | some switch =>
      if switch.placeholder.isSome && value.isNone then .waiting settings switch
      else if switch.placeholder.isNone && value.isSome then .refused
      else
        match switch.apply (value.getD "") settings with
        | some settings => .ended settings
        | none => .refused

/-- Whether an argument is no switch. A lone dash is none. -/
def isWord (argument : String) : Bool :=
  !argument.startsWith "-" || argument = "-"

/-- Reads arguments up to the first that is no switch. Nothing may follow two dashes that stand
alone. -/
def readSwitches (switches : List (Switch σ)) (settings : σ) : List String → Reading σ
  | [] => .ended settings
  | argument :: rest =>
    if isWord argument then .word settings argument rest
    else if argument = "--" then if rest.isEmpty then .ended settings else .refused
    else
      let reading :=
        match argument.toList with
        | '-' :: '-' :: text => readName switches settings text
        | _ :: letters => readLetters switches settings letters
        | [] => .refused
      match reading with
      | .help => .help
      | .refused => .refused
      | .ended settings => readSwitches switches settings rest
      | .waiting settings switch =>
        match rest with
        | [] => .refused
        | value :: rest =>
          if isWord value then
            match switch.apply value settings with
            | some settings => readSwitches switches settings rest
            | none => .refused
          else .refused

end Integrity.CommandLine
