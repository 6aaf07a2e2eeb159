/-!
# Roles

The parties of the marketplace that may follow a temperature of their own.
-/

namespace Integrity

/-- A party of the marketplace. -/
inductive Role where
  | employer
  | agent
  | validator
  | operator
deriving DecidableEq, Repr, Inhabited

namespace Role

/-- All roles, in their order. -/
def all : List Role :=
  [employer, agent, validator, operator]

theorem mem_all (role : Role) : role ∈ all := by
  cases role <;> decide

/-- The name of a role. -/
def name : Role → String
  | employer => "employer"
  | agent => "agent"
  | validator => "validator"
  | operator => "operator"

instance : ToString Role :=
  ⟨name⟩

/-- The place of a role in their order. -/
def rank : Role → Nat
  | employer => 0
  | agent => 1
  | validator => 2
  | operator => 3

/-- The role with exactly this name. -/
def ofName? (name : String) : Option Role :=
  all.find? fun role => role.name == name

/-- The text with its ASCII letters in lower case. -/
def lowerAscii (text : String) : String :=
  String.ofList (text.toList.map Char.toLower)

/-- Why a text names no role. -/
structure UnknownRole where
  text : String
deriving DecidableEq, Repr

/-- What is said about a text that names no role. -/
def UnknownRole.message (e : UnknownRole) : String :=
  s!"Unknown role: {e.text}"

/-- Reads the name of a role in ASCII letters of either case. -/
def ofString (text : String) : Except UnknownRole Role :=
  match ofName? (lowerAscii text) with
  | some role => .ok role
  | none => .error ⟨text⟩

end Role

end Integrity
