import ModelRepository.Binary.Layout

/-! A 64-bit checksum of bytes.
Each byte is mixed into the rotated state together with its position. The checksum guards against
accidents only.
-/

namespace ModelRepository.Digest

/-- Rotates the bits of a word to the left by `count`, which lies between 1 and 63. -/
def rotateLeft (word count : UInt64) : UInt64 :=
  (word <<< count) ||| (word >>> (64 - count))

/-- Mixes the bytes from `position` on into `state`, and then the length of the whole. -/
def mixBytes (state position : UInt64) : Binary.Bytes → UInt64
  | [] => state ^^^ rotateLeft position 3
  | byte :: rest =>
      mixBytes (rotateLeft state 5 ^^^ byte.toUInt64 ^^^ rotateLeft position 29)
        (position + 1) rest

/-- The checksum of `bytes`. -/
def checksum (bytes : Binary.Bytes) : UInt64 :=
  mixBytes 0 0 bytes

end ModelRepository.Digest
