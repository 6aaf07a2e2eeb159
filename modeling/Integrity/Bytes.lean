/-!
# Words of thirty-two bytes

Addresses, digests and seeds are words of thirty-two bytes. A byte string read big-endian is a
natural number, and every natural number has big-endian digits on any number of places.
-/

namespace Integrity

/-- The last `width` base-256 digits of `n`, most significant first. -/
def bigEndian : (width : Nat) → (n : Nat) → List UInt8
  | 0, _ => []
  | width + 1, n => bigEndian width (n / 256) ++ [UInt8.ofNat (n % 256)]

/-- The number a byte string denotes, read most significant byte first. -/
def ofBigEndian (bytes : List UInt8) : Nat :=
  bytes.foldl (fun acc byte => acc * 256 + byte.toNat) 0

@[simp]
theorem length_bigEndian (width n : Nat) : (bigEndian width n).length = width := by
  induction width generalizing n with
  | zero => rfl
  | succ width ih => simp [bigEndian, ih]

theorem foldl_ofBigEndian_injective {first second : List UInt8}
    (hlength : first.length = second.length) {high low : Nat}
    (h : first.foldl (fun acc byte => acc * 256 + byte.toNat) high =
      second.foldl (fun acc byte => acc * 256 + byte.toNat) low) :
    high = low ∧ first = second := by
  induction first generalizing second high low with
  | nil =>
    cases second with
    | nil => exact ⟨h, rfl⟩
    | cons byte rest => cases hlength
  | cons byte rest ih =>
    cases second with
    | nil => cases hlength
    | cons other others =>
      obtain ⟨hsum, hrest⟩ := ih (Nat.succ.inj hlength) h
      -- The sums agree, and a byte is the remainder of its sum.
      dsimp only at hsum
      have hbyte := byte.toNat_lt
      have hother := other.toNat_lt
      have hdigit : byte = other := UInt8.toNat_inj.mp (by omega)
      exact ⟨by omega, by rw [hdigit, hrest]⟩

/-- The bytes of the characters of a text, in order. -/
def utf8 (text : List Char) : List UInt8 :=
  text.flatMap String.utf8EncodeChar

/-- Thirty-two bytes. -/
structure Word where
  bytes : List UInt8
  length_bytes : bytes.length = 32
deriving DecidableEq

namespace Word

/-- The word that holds the same byte everywhere. -/
def filled (byte : UInt8) : Word :=
  ⟨List.replicate 32 byte, by simp⟩

/-- The word of thirty-two zero bytes. -/
def zero : Word :=
  filled 0

instance : Inhabited Word :=
  ⟨zero⟩

/-- A byte string as a word, when it has the right length. -/
def ofBytes? (bytes : List UInt8) : Option Word :=
  if h : bytes.length = 32 then some ⟨bytes, h⟩ else none

/-- The big-endian word of a number, cut to its last thirty-two bytes. -/
def ofNat (n : Nat) : Word :=
  ⟨bigEndian 32 n, length_bigEndian 32 n⟩

/-- The number a word denotes, read big-endian. -/
def toNat (word : Word) : Nat :=
  ofBigEndian word.bytes

theorem eq_of_toNat_eq {first second : Word} (h : first.toNat = second.toNat) :
    first = second := by
  have hlength : first.bytes.length = second.bytes.length := by
    rw [first.length_bytes, second.length_bytes]
  obtain ⟨-, hbytes⟩ := foldl_ofBigEndian_injective hlength h
  cases first
  cases second
  cases hbytes
  rfl

theorem ofBytes?_bytes (word : Word) : ofBytes? word.bytes = some word := by
  simp [ofBytes?, word.length_bytes]

end Word

end Integrity
