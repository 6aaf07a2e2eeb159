import Integrity.Text.Hex

/-!
# Addresses

An address is the identity of an account: thirty-two bytes, written in hexadecimal behind `0x`.
The address of all zeros is nobody.
-/

namespace Integrity

/-- The identity of an account. -/
structure Address where
  word : Word
deriving DecidableEq, Inhabited

namespace Address

/-- The address whose bytes are all the same. -/
def filled (byte : UInt8) : Address :=
  ⟨Word.filled byte⟩

/-- Nobody. -/
def null : Address :=
  ⟨Word.zero⟩

/-- Whether an address is nobody. -/
def isNull (address : Address) : Bool :=
  address == null

/-- The number an address denotes, read big-endian; addresses are ordered by it. -/
def toNat (address : Address) : Nat :=
  address.word.toNat

theorem eq_of_toNat_eq {first second : Address} (h : first.toNat = second.toNat) :
    first = second := by
  cases first
  cases second
  cases Word.eq_of_toNat_eq h
  rfl

/-- The sixty-four digits of an address. -/
def digits (address : Address) : List Char :=
  Hex.encode address.word.bytes

/-- An address as it is written: `0x` and its digits. -/
def toText (address : Address) : List Char :=
  '0' :: 'x' :: address.digits

/-- An address as it is written. -/
def toString (address : Address) : String :=
  String.ofList address.toText

instance : ToString Address :=
  ⟨Address.toString⟩

/-- The digits of the first eight bytes. -/
def short (address : Address) : String :=
  String.ofList (Hex.encode (address.word.bytes.take 8))

/-- Why a text is no address. -/
inductive Error where
  | hex (cause : Hex.Error)
  | length (actual : Nat)
deriving DecidableEq, Repr

/-- What is said about a text that is no address. -/
def Error.message : Error → String
  | .hex cause => s!"Invalid hex encoding: {cause.message}"
  | .length actual => s!"Invalid length: expected 32 bytes, got {actual}"

/-- The text after one `0x` at its front, if there is one. -/
def unmarked : List Char → List Char
  | '0' :: 'x' :: rest => rest
  | text => text

/-- Reads an address, with or without `0x`. -/
def ofText (text : List Char) : Except Error Address :=
  match Hex.decode (utf8 (unmarked text)) with
  | .error cause => .error (.hex cause)
  | .ok bytes =>
    match Word.ofBytes? bytes with
    | some word => .ok ⟨word⟩
    | none => .error (.length bytes.length)

/-- Reads an address, with or without `0x`. -/
def ofString (text : String) : Except Error Address :=
  ofText text.toList

end Address

end Integrity
