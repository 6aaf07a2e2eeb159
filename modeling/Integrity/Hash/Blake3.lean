import Integrity.Bytes
import Integrity.Hash.Mixing

/-!
# The BLAKE3 hash

A message is cut into chunks of 1024 bytes and a chunk into blocks of 64 bytes. Blocks are chained
through the compression function; chunks are the leaves of a binary tree whose left subtrees are
complete. The digest is the output of the root.
-/

namespace Integrity.Blake3

/-- Eight chaining words. -/
abbrev Chain : Type :=
  Vector UInt32 8

/-- Four words that enter every compression. -/
def constants : Vector UInt32 4 :=
  #v[0x6A09E667, 0xBB67AE85, 0x3C6EF372, 0xA54FF53A]

/-- The chaining value that starts every chunk. -/
def initial : Chain :=
  constants ++ (#v[0x510E527F, 0x9B05688C, 0x1F83D9AB, 0x5BE0CD19] : Vector UInt32 4)

/-- Marks the first block of a chunk. -/
def chunkStart : UInt32 := 1

/-- Marks the last block of a chunk. -/
def chunkEnd : UInt32 := 2

/-- Marks an inner node of the tree. -/
def parent : UInt32 := 4

/-- Marks the root of the tree. -/
def root : UInt32 := 8

/-- The turns of a round, which go to the right by 16, 12, 8 and 7 bits. -/
def turns : Turns :=
  ⟨16, 20, 24, 25⟩

/-- The order in which a round hands the message words to the next. -/
def order : Vector Nat 16 :=
  #v[2, 6, 3, 10, 7, 0, 4, 13, 1, 11, 12, 5, 9, 14, 15, 8]

/-- The message words in the order of the next round. -/
def permute (m : State16) : State16 :=
  order.map fun place => m.toArray.getD place 0

/-- `count` rounds, with the message permuted between them. -/
def rounds : (count : Nat) → (s m : State16) → State16
  | 0, s, _ => s
  | 1, s, m => stirRound turns s m
  | count + 1, s, m => rounds count (stirRound turns s m) (permute m)

/-- A block ready to be compressed, with the chaining value that enters it. -/
structure Node where
  chain : Chain
  block : State16
  /-- The index of the chunk, zero for inner nodes. -/
  counter : UInt64
  /-- How many bytes of the block belong to the message. -/
  length : UInt32
  flags : UInt32

/-- The compression function, with additional marks. -/
def Node.compress (node : Node) (marks : UInt32) : Chain :=
  let about : Vector UInt32 4 :=
    #v[node.counter.toUInt32, (node.counter >>> 32).toUInt32, node.length, node.flags ||| marks]
  let s := rounds 7 (node.chain ++ constants ++ about) node.block
  Vector.ofFn fun i : Fin 8 => s.get (i.castLE (by decide)) ^^^ s.get (i.natAdd 8)

/-- The list cut into pieces of `size`, the last one possibly shorter. -/
def pieces {α : Type} (size : Nat) (items : List α) : List (List α) :=
  if _h : size = 0 ∨ items.length ≤ size then [items]
  else items.take size :: pieces size (items.drop size)
termination_by items.length
decreasing_by simp; omega

/-- The words of a block of at most 64 bytes, filled up with zeros. -/
def words (bytes : List UInt8) : State16 :=
  let bytes := bytes.toArray
  Vector.ofFn fun i => littleEndianWord bytes (4 * i)

/-- The last node of a chunk, after all blocks before it have been chained. -/
def chunkNode (counter : UInt64) (chain : Chain) (flags : UInt32) : List (List UInt8) → Node
  | [] => ⟨chain, words [], counter, 0, flags ||| chunkEnd⟩
  | [block] => ⟨chain, words block, counter, UInt32.ofNat block.length, flags ||| chunkEnd⟩
  | block :: rest =>
    let node : Node := ⟨chain, words block, counter, UInt32.ofNat block.length, flags⟩
    chunkNode counter (node.compress 0) 0 rest

/-- The inner node over two subtrees. -/
def parentNode (left right : Node) : Node :=
  { chain := initial
    block := left.compress 0 ++ right.compress 0
    counter := 0
    length := 64
    flags := parent }

/-- How many of `n` chunks belong to the left subtree: the largest power of two below `n`. -/
def leftChunks (n : Nat) : Nat :=
  Nat.pow 2 (n - 1).log2

theorem leftChunks_lt {n : Nat} (h : 2 ≤ n) : leftChunks n < n := by
  have := Nat.log2_self_le (n := n - 1) (by omega)
  unfold leftChunks
  rw [Nat.pow_eq]
  omega

theorem leftChunks_pos (n : Nat) : 0 < leftChunks n :=
  Nat.two_pow_pos _

/-- The root of the tree over chunks that start with number `counter`. -/
def tree (counter : UInt64) (chunks : List (List UInt8)) : Node :=
  match chunks with
  | [] => chunkNode counter initial chunkStart [[]]
  | [chunk] => chunkNode counter initial chunkStart (pieces 64 chunk)
  | first :: second :: rest =>
    let chunks := first :: second :: rest
    let left := leftChunks chunks.length
    have hl := leftChunks_lt (n := chunks.length) (by simp [chunks])
    have hp := leftChunks_pos chunks.length
    parentNode (tree counter (chunks.take left))
      (tree (counter + UInt64.ofNat left) (chunks.drop left))
termination_by chunks.length
decreasing_by
  · simp only [chunks, List.length_take] at *; omega
  · simp only [chunks, List.length_drop] at *; omega

/-- The thirty-two bytes of eight words, each least significant byte first. -/
def digestBytes (h : Chain) : List UInt8 :=
  h.toList.flatMap littleEndianBytes

theorem length_flatMap_littleEndianBytes (ws : List UInt32) :
    (ws.flatMap littleEndianBytes).length = 4 * ws.length := by
  induction ws with
  | nil => rfl
  | cons w ws ih => simp [ih, littleEndianBytes]; omega

/-- The digest of a message. -/
def hash (message : List UInt8) : Word :=
  let h := (tree 0 (pieces 1024 message)).compress root
  ⟨digestBytes h, by rw [digestBytes, length_flatMap_littleEndianBytes, Vector.length_toList]⟩

end Integrity.Blake3
