import Integrity.Files.Tree

/-!
# Hosts

What the program asks of the machine that it runs on. A tree of files with a clock that stands still
is a host.
-/

namespace Integrity.CommandLine

/-- What the program asks of its machine, with effects in `m`. -/
structure Host (m : Type → Type) where
  holds : String → m Bool
  read : String → m (Option String)
  /-- Replaces the text of a file, and tells whether that was possible. -/
  write : String → String → m Bool
  openLog : String → m (Except Files.Error Unit)
  /-- The seconds since the first of January 1970, and the nanoseconds of the current one. -/
  now : m (Int × Nat)

/-- The host that is a tree of files, at a time. -/
def Host.ofTree (seconds : Int) : Host (StateM Files.Tree) where
  holds path := return (← get).holds path
  read path := return ((← get).read path).toOption
  write path text := do
    match (← get).write path text with
    | .ok tree =>
      set tree
      return true
    | .error _ => return false
  openLog path := do
    match (← get).append path "" with
    | .ok tree =>
      set tree
      return .ok ()
    | .error cause => return .error cause
  now := return (seconds, 0)

end Integrity.CommandLine
