/-!
# Failures of files
-/

namespace Integrity.Files

/-- Why a file cannot be opened. -/
inductive Error where
  | notFound
  | notDirectory
  | isDirectory
  | nameTooLong
  | zeroCharacter
  | other (description : String) (code : Nat)
deriving DecidableEq, Repr

/-- What is said about a file that cannot be opened. -/
def Error.message : Error → String
  | notFound => "No such file or directory (os error 2)"
  | notDirectory => "Not a directory (os error 20)"
  | isDirectory => "Is a directory (os error 21)"
  | nameTooLong => "File name too long (os error 36)"
  | zeroCharacter => "file name contained an unexpected NUL byte"
  | other description code => s!"{description} (os error {code})"

end Integrity.Files
