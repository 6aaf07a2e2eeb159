import Integrity.CommandLine.Switch

/-!
# Usage texts
-/

namespace Integrity.CommandLine

/-- A text with spaces at its end, so that it has at least `width` characters. -/
def padded (width : Nat) (text : String) : String :=
  text.pushn ' ' (width - text.length)

/-- Two columns. -/
def columns (rows : List (String × String)) : String :=
  let width := (rows.map fun row => row.1.length).foldl max 0
  String.join (rows.map fun (left, right) => "  " ++ padded (width + 2) left ++ right ++ "\n")

/-- How a switch is given. -/
def Form.summary (form : Form) : String :=
  let letter := form.letter.elim "    " fun letter => "-" ++ letter.toString ++ ", "
  let value := form.placeholder.elim "" fun placeholder => s!" <{placeholder}>"
  letter ++ "--" ++ form.name ++ value ++ if form.isCounted then "..." else ""

/-- How a command is used. -/
structure Usage where
  purpose : String
  arguments : String
  commands : List (String × String)
  forms : List Form
deriving DecidableEq, Repr

/-- The name of the program. -/
def programName : String :=
  "aice"

/-- The text that explains a command. -/
def Usage.text (usage : Usage) : String :=
  let commands :=
    if usage.commands.isEmpty then "" else "Commands:\n" ++ columns usage.commands ++ "\n"
  let forms := usage.forms ++ [Form.help]
  usage.purpose ++ "\n\nUsage: " ++ programName ++ " " ++ usage.arguments ++ "\n\n" ++ commands
    ++ "Options:\n" ++ columns (forms.map fun form => (form.summary, form.purpose))

end Integrity.CommandLine
