import ModelRepository.Binary.Records
import ModelRepository.Canonical
import ModelRepository.Digest.Blake3
import ModelRepository.Digest.Checksum
import ModelRepository.Error
import ModelRepository.Text.Hex

/-! Archives, which hold the content of one chunk in canonical order.
An archive opens with the length of its header in four bytes, lowest first; the header states
the number of instances and the checksum of the content that follows.
-/

namespace ModelRepository

namespace Chunk

/-- The bytes of a chunk in canonical order. -/
def canonicalBytes (chunk : Chunk) : Binary.Bytes :=
  Binary.chunk.encode chunk.canonical

/-- The checksum of a chunk in canonical order. -/
def checksum (chunk : Chunk) : UInt64 :=
  Digest.checksum chunk.canonicalBytes

/-- The digest of a chunk in hexadecimal digits. -/
def hash (chunk : Chunk) : String :=
  Text.hex (Digest.Blake3.hash chunk.canonicalBytes)

end Chunk

namespace Archive

open Binary (Bytes)

/-- Four bytes that mark a kind of file. -/
structure Magic where
  a : UInt8
  b : UInt8
  c : UInt8
  d : UInt8
  deriving DecidableEq

/-- The mark of archives. -/
def magic : Magic := ⟨67, 78, 80, 67⟩

/-- The version of the format. -/
def version : UInt8 := 1

/-- What an archive states about its content. -/
structure Header where
  magic : Magic := Archive.magic
  version : UInt8 := Archive.version
  instanceCount : UInt64
  checksum : UInt64
  deriving DecidableEq

namespace Header

open Binary.Layout in
/-- Mark and version come first, then the two numbers. -/
def layout : Binary.Layout Header :=
  (pair (pair byte (pair byte (pair byte byte))) (pair byte (pair word64 word64))).via
    (fun header => ((header.magic.a, header.magic.b, header.magic.c, header.magic.d),
      header.version, header.instanceCount, header.checksum))
    (fun ((a, b, c, d), version, instanceCount, checksum) =>
      { magic := ⟨a, b, c, d⟩, version, instanceCount, checksum })

/-- Accepts the one format that is supported. -/
def check (header : Header) : Except RepositoryError Unit :=
  if header.magic ≠ Archive.magic then .error (.undecodable .archiveMagic)
  else if header.version ≠ Archive.version then .error (.undecodable .archiveVersion)
  else .ok ()

/-- The header of an archive of `chunk`. -/
def of (chunk : Chunk) : Header :=
  { instanceCount := UInt64.ofNat chunk.size, checksum := chunk.checksum }

end Header

/-- Four bytes that hold a number, lowest first. -/
def lengthBytes (length : Nat) : Bytes :=
  [UInt8.ofNat length, UInt8.ofNat (length / 256), UInt8.ofNat (length / 65536),
    UInt8.ofNat (length / 16777216)]

/-- The archive of a chunk. -/
def encode (chunk : Chunk) : Bytes :=
  let header := Header.layout.encode (.of chunk)
  lengthBytes header.length ++ header ++ chunk.canonicalBytes

/-- The content behind a header, once the header's statements about it hold. -/
def decodeContent (header : Header) (content : Bytes) : Except RepositoryError Chunk :=
  match Binary.chunk.decode content with
  | .error fault => .error (.undecodable (.archiveData fault))
  | .ok chunk =>
      let actual := Digest.checksum (Binary.chunk.encode chunk)
      if UInt64.ofNat chunk.size ≠ header.instanceCount then
        .error (.undecodable .archiveCount)
      else if actual ≠ header.checksum then
        .error (.undecodable (.archiveChecksum header.checksum actual))
      else .ok chunk

/-- The chunk that an archive holds, in the order in which it lists it. -/
def decode : Bytes → Except RepositoryError Chunk
  | a :: b :: c :: d :: rest =>
      let headerLength :=
        a.toNat + b.toNat * 256 + c.toNat * 65536 + d.toNat * 16777216
      if rest.length < headerLength then .error (.undecodable .archiveHeaderTooShort)
      else
        match Header.layout.decode (rest.take headerLength) with
        | .error fault => .error (.undecodable (.archiveHeader fault))
        | .ok header =>
            match header.check with
            | .error error => .error error
            | .ok () => decodeContent header (rest.drop headerLength)
  | _ => .error (.undecodable .archiveTooShort)

end Archive

end ModelRepository
