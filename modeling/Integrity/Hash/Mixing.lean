/-!
# Mixing sixteen words

A state of sixteen 32-bit words is stirred four words at a time, first by columns and then by
diagonals of a square. The same round, with its own rotations, drives the hash and the random
stream.
-/

namespace Integrity

/-- Sixteen 32-bit words. -/
abbrev State16 : Type :=
  Vector UInt32 16

/-- `x` turned left by `n` bits, `0 < n < 32`. -/
def rotateLeft (x n : UInt32) : UInt32 :=
  (x <<< n) ||| (x >>> (32 - n))

/-- By how many bits words are turned to the left when they are stirred. -/
structure Turns where
  /-- The first turn of the fourth word. -/
  first : UInt32
  /-- The first turn of the second word. -/
  second : UInt32
  /-- The last turn of the fourth word. -/
  third : UInt32
  /-- The last turn of the second word. -/
  fourth : UInt32
deriving DecidableEq, Repr

/-- Stirs four words of the state together with two words of a message. -/
def stir (turns : Turns) (s : State16) (a b c d : Fin 16) (x y : UInt32) : State16 :=
  let va := s[a] + s[b] + x
  let vd := rotateLeft (s[d] ^^^ va) turns.first
  let vc := s[c] + vd
  let vb := rotateLeft (s[b] ^^^ vc) turns.second
  let va := va + vb + y
  let vd := rotateLeft (vd ^^^ va) turns.third
  let vc := vc + vd
  let vb := rotateLeft (vb ^^^ vc) turns.fourth
  (((s.set a va).set b vb).set c vc).set d vd

/-- Stirs the four columns and then the four diagonals, together with the words of a message. -/
def stirRound (turns : Turns) (s m : State16) : State16 :=
  let s := stir turns s 0 4 8 12 m[0] m[1]
  let s := stir turns s 1 5 9 13 m[2] m[3]
  let s := stir turns s 2 6 10 14 m[4] m[5]
  let s := stir turns s 3 7 11 15 m[6] m[7]
  let s := stir turns s 0 5 10 15 m[8] m[9]
  let s := stir turns s 1 6 11 12 m[10] m[11]
  let s := stir turns s 2 7 8 13 m[12] m[13]
  stir turns s 3 4 9 14 m[14] m[15]

/-- The word whose bytes at `start` are given least significant first; absent bytes are zero. -/
def littleEndianWord (bytes : Array UInt8) (start : Nat) : UInt32 :=
  let byte (i : Nat) : UInt32 := (bytes.getD (start + i) 0).toUInt32
  byte 0 ||| (byte 1 <<< 8) ||| (byte 2 <<< 16) ||| (byte 3 <<< 24)

/-- The four bytes of a word, least significant first. -/
def littleEndianBytes (word : UInt32) : List UInt8 :=
  [word.toUInt8, (word >>> 8).toUInt8, (word >>> 16).toUInt8, (word >>> 24).toUInt8]

end Integrity
