import Integrity.Bytes
import Integrity.Hash.Mixing
import Integrity.Width

/-!
# A reproducible random stream

A 64-bit number is spread over an eight-word key by a permuted congruential generator. The key
drives a ChaCha keystream of twelve rounds whose blocks are numbered from zero; the stream is the
words of those blocks in order. Nothing but the key decides what is drawn.
-/

namespace Integrity.Random

/-- Eight key words. -/
abbrev Key : Type :=
  Vector UInt32 8

/-- One step of the congruential generator that spreads a number over a key. -/
def spreadStep (state : UInt64) : UInt64 :=
  state * 6364136223846793005 + 11634580027462260723

/-- The key word that a state of the congruential generator yields. -/
def spreadWord (state : UInt64) : UInt32 :=
  let x := (((state >>> 18) ^^^ state) >>> 27).toUInt32
  let turn := (state >>> 59).toUInt32
  (x >>> turn) ||| (x <<< ((32 - turn) % 32))

/-- The first `count` words that the congruential generator yields after a state. -/
def spread : (count : Nat) → (state : UInt64) → List UInt32
  | 0, _ => []
  | count + 1, state => spreadWord (spreadStep state) :: spread count (spreadStep state)

theorem length_spread (count : Nat) (state : UInt64) : (spread count state).length = count := by
  induction count generalizing state with
  | zero => rfl
  | succ count ih => simp [spread, ih]

/-- The key of a seed number. -/
def keyOfSeed (seed : UInt64) : Key :=
  ⟨(spread 8 seed).toArray, by simp [length_spread]⟩

/-- The turns of a round. -/
def turns : Turns :=
  ⟨16, 12, 8, 7⟩

/-- The message of a keystream, which has none. -/
def silence : State16 :=
  Vector.replicate 16 0

/-- The state that block number `counter` starts from. -/
def blockStart (key : Key) (counter : UInt64) : State16 :=
  (#v[0x61707865, 0x3320646E, 0x79622D32, 0x6B206574] : Vector UInt32 4) ++ key
    ++ (#v[counter.toUInt32, (counter >>> 32).toUInt32, 0, 0] : Vector UInt32 4)

/-- The sixteen words of block number `counter`. -/
def block (key : Key) (counter : UInt64) : State16 :=
  let start := blockStart key counter
  let stirred := Nat.repeat (stirRound turns · silence) 6 start
  Vector.zipWith (· + ·) stirred start

/-- Where a stream stands: what is left of the current block, and the number of the next one. -/
structure Stream where
  key : Key
  next : UInt64
  pending : List UInt32

namespace Stream

/-- The stream of a seed number, from its first word. -/
def ofSeed (seed : UInt64) : Stream :=
  ⟨keyOfSeed seed, 0, []⟩

/-- Draws the next word. -/
def word (s : Stream) : UInt32 × Stream :=
  match s.pending with
  | w :: pending => (w, { s with pending })
  | [] =>
    let fresh := (block s.key s.next).toList
    (fresh.headD 0, { s with next := s.next + 1, pending := fresh.tail })

/-- Draws two words and joins them, the low one first. -/
def doubleWord (s : Stream) : UInt64 × Stream :=
  let (low, s) := s.word
  let (high, s) := s.word
  (low.toUInt64 ||| (high.toUInt64 <<< 32), s)

/-- Draws one byte from each of `count` words, the low byte. -/
def bytes : (count : Nat) → Stream → List UInt8 × Stream
  | 0, s => ([], s)
  | count + 1, s =>
    let (w, s) := s.word
    let (rest, s) := bytes count s
    (w.toUInt8 :: rest, s)

theorem length_bytes (count : Nat) (s : Stream) : (bytes count s).1.length = count := by
  induction count generalizing s with
  | zero => rfl
  | succ count ih => simp [bytes, ih]

/-- Draws a word of thirty-two bytes. -/
def word32 (s : Stream) : Word × Stream :=
  (⟨(bytes 32 s).1, length_bytes 32 s⟩, (bytes 32 s).2)

/-- The number of moments that `moment` chooses from: those from zero to below the largest
64-bit signed integer. -/
def moments : Nat :=
  maxInt64.toNat

/-- Draws a moment uniformly, at most `attempts` times: a draw is scaled to the range and refused
when it falls into the uneven end. -/
def momentWithin : (attempts : Nat) → Stream → Int64 × Stream
  | 0, s => (0, s)
  | attempts + 1, s =>
    let (v, s) := s.doubleWord
    let scaled := v.toNat * moments
    if scaled % (maxWord64 + 1) ≤ maxWord64 - 2 then (Int64.ofNat (scaled / (maxWord64 + 1)), s)
    else momentWithin attempts s

/-- Draws a moment uniformly. Two draws in `2 ^ 64` are refused, so that all of a hundred being
refused does not happen. -/
def moment (s : Stream) : Int64 × Stream :=
  momentWithin 100 s

end Stream

end Integrity.Random
