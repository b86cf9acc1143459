import ModelRepository.Binary.Layout

/-! The BLAKE3 digest of bytes, 32 bytes long.
The input is cut into chunks of 1024 bytes, each compressed block by block; the chunks are the
leaves of a binary tree whose left subtrees are full, and the root is compressed last.
-/

namespace ModelRepository.Digest.Blake3

open Binary (Bytes)

/-- Sixteen words: a block of the message, or the state of a compression. -/
abbrev Block := Vector UInt32 16

/-- Eight words that stand for everything compressed so far. -/
abbrev ChainingValue := Vector UInt32 8

/-- The chaining value to start from. -/
def initial : ChainingValue :=
  #v[0x6a09e667, 0xbb67ae85, 0x3c6ef372, 0xa54ff53a,
    0x510e527f, 0x9b05688c, 0x1f83d9ab, 0x5be0cd19]

/-- The order in which a round reads the words of the round before it. -/
def permutation : Vector (Fin 16) 16 :=
  #v[2, 6, 3, 10, 7, 0, 4, 13, 1, 11, 12, 5, 9, 14, 15, 8]

/-- Marks the first block of a chunk. -/
def chunkStart : UInt32 := 1

/-- Marks the last block of a chunk. -/
def chunkEnd : UInt32 := 2

/-- Marks an inner node of the tree. -/
def parentNode : UInt32 := 4

/-- Marks the compression that gives the digest. -/
def rootNode : UInt32 := 8

/-- Rotates the bits of a word to the right by `count`, which lies between 1 and 31. -/
def rotateRight (word count : UInt32) : UInt32 :=
  (word >>> count) ||| (word <<< (32 - count))

/-- Mixes two message words into four words of the state. -/
def quarter (state : Block) (a b c d : Fin 16) (x y : UInt32) : Block :=
  let wa := state[a] + state[b] + x
  let wd := rotateRight (state[d] ^^^ wa) 16
  let wc := state[c] + wd
  let wb := rotateRight (state[b] ^^^ wc) 12
  let wa := wa + wb + y
  let wd := rotateRight (wd ^^^ wa) 8
  let wc := wc + wd
  let wb := rotateRight (wb ^^^ wc) 7
  (((state.set a wa).set b wb).set c wc).set d wd

/-- One round mixes the columns of the state and then its diagonals. -/
def round (state message : Block) : Block :=
  let state := quarter state 0 4 8 12 message[0] message[1]
  let state := quarter state 1 5 9 13 message[2] message[3]
  let state := quarter state 2 6 10 14 message[4] message[5]
  let state := quarter state 3 7 11 15 message[6] message[7]
  let state := quarter state 0 5 10 15 message[8] message[9]
  let state := quarter state 1 6 11 12 message[10] message[11]
  let state := quarter state 2 7 8 13 message[12] message[13]
  quarter state 3 4 9 14 message[14] message[15]

/-- The given number of rounds, with the message permuted between them. -/
def rounds : Nat → Block → Block → Block
  | 0, state, _ => state
  | count + 1, state, message =>
      rounds count (round state message) (Vector.ofFn fun i => message[permutation[i]])

/-- What a compression is applied to. -/
structure Node where
  chaining : ChainingValue
  block : Block
  counter : UInt64
  length : UInt32
  flags : UInt32

/-- The chaining value of a node. -/
def compress (node : Node) : ChainingValue :=
  let start : Block := Vector.ofFn fun i =>
    if low : i.val < 8 then node.chaining[i.val]
    else if next : i.val < 12 then initial[i.val - 8]
    else if i.val = 12 then node.counter.toUInt32
    else if i.val = 13 then (node.counter >>> 32).toUInt32
    else if i.val = 14 then node.length
    else node.flags
  let state := rounds 7 start node.block
  Vector.ofFn fun i => state[i.val] ^^^ state[i.val + 8]

/-- The words of a block, lowest byte first; missing bytes are zero. -/
def blockOf (bytes : Bytes) : Block :=
  let bytes := bytes.toArray
  let part (i : Nat) : UInt32 := (bytes.getD i 0).toUInt32
  Vector.ofFn fun i =>
    part (4 * i.val) ||| part (4 * i.val + 1) <<< 8
      ||| part (4 * i.val + 2) <<< 16 ||| part (4 * i.val + 3) <<< 24

/-- The last node of a chunk whose earlier blocks have the given chaining value. -/
def chunkNode (counter : UInt64) (chaining : ChainingValue) (flags : UInt32) (bytes : Bytes)
    : Node :=
  let node : Node :=
    { chaining, block := blockOf (bytes.take 64), counter
      length := UInt32.ofNat (min bytes.length 64), flags }
  if 64 < bytes.length then
    chunkNode counter (compress node) 0 (bytes.drop 64)
  else
    { node with flags := flags ||| chunkEnd }
termination_by bytes.length

/-- The inner node above two chaining values. -/
def parentOf (left right : ChainingValue) : Node :=
  { chaining := initial, block := left ++ right, counter := 0, length := 64, flags := parentNode }

/-- The size of the left subtree above `chunks` chunks: the greatest power of two below it. -/
def leftChunks (chunks : Nat) : Nat :=
  1 <<< (chunks - 1).log2

/-- Neither subtree above several chunks is empty, by the bounds of the binary logarithm. -/
theorem leftChunks_lt (chunks : Nat) (several : 1 < chunks)
    : 0 < leftChunks chunks ∧ leftChunks chunks < chunks := by
  rw [leftChunks, Nat.one_shiftLeft]
  have := Nat.log2_self_le (n := chunks - 1) (by omega)
  have := Nat.two_pow_pos (chunks - 1).log2
  omega

/-- The topmost node above the bytes whose first chunk has the number `counter`. -/
def treeNode (counter : UInt64) (bytes : Bytes) : Node :=
  if several : 1024 < bytes.length then
    let chunks := (bytes.length + 1023) / 1024
    let left := leftChunks chunks
    parentOf (compress (treeNode counter (bytes.take (1024 * left))))
      (compress (treeNode (counter + UInt64.ofNat left) (bytes.drop (1024 * left))))
  else
    chunkNode counter initial chunkStart bytes
termination_by bytes.length
decreasing_by
  · have := leftChunks_lt ((bytes.length + 1023) / 1024) (by omega)
    simp only [List.length_take]
    omega
  · have := leftChunks_lt ((bytes.length + 1023) / 1024) (by omega)
    simp only [List.length_drop]
    omega

/-- The four bytes of a word, lowest first. -/
def wordBytes (word : UInt32) : Bytes :=
  [word.toUInt8, (word >>> 8).toUInt8, (word >>> 16).toUInt8, (word >>> 24).toUInt8]

/-- The digest of `bytes`. -/
def hash (bytes : Bytes) : Bytes :=
  let root := treeNode 0 bytes
  (compress { root with flags := root.flags ||| rootNode }).toList.flatMap wordBytes

end ModelRepository.Digest.Blake3
