import ModelRepository.Binary.Records
import ModelRepository.Error

/-! Snapshot files, which hold the full state of one repository.
A file opens with four magic bytes and a version byte; the snapshot follows. Bytes behind the
snapshot are ignored.
-/

namespace ModelRepository.SnapshotFile

open Binary (Bytes)

/-- The four bytes with which every snapshot file begins. -/
def magic : Bytes := [67, 78, 80, 89]

/-- The version of the format. -/
def version : UInt8 := 1

/-- The number of bytes before the snapshot. -/
def headerSize : Nat := 5

/-- The largest file that is read. -/
def maxSize : Nat := 500 * 1024 * 1024

/-- What the first bytes of a file claim to be. -/
structure Header where
  magic : Bytes := SnapshotFile.magic
  version : UInt8 := SnapshotFile.version
  deriving DecidableEq

namespace Header

/-- The bytes of a header. -/
def toBytes (header : Header) : Bytes :=
  header.magic ++ [header.version]

/-- The header at the front of the bytes, whatever it claims. -/
def ofBytes : Bytes → Except RepositoryError Header
  | a :: b :: c :: d :: version :: _ => .ok ⟨[a, b, c, d], version⟩
  | _ => .error (.undecodable .snapshotHeaderTooShort)

/-- Accepts the one format that is supported. -/
def check (header : Header) : Except RepositoryError Unit :=
  if header.magic ≠ SnapshotFile.magic then .error (.undecodable .snapshotMagic)
  else if header.version ≠ SnapshotFile.version then
    .error (.undecodable (.snapshotVersion header.version))
  else .ok ()

end Header

/-- The file that holds a snapshot. -/
def encode (snapshot : Snapshot) : Bytes :=
  magic ++ version :: Binary.snapshot.encode snapshot

/-- The snapshot that a file holds. -/
def decode (bytes : Bytes) : Except RepositoryError Snapshot :=
  if bytes.length < headerSize then .error (.undecodable .snapshotTooShort)
  else if bytes.length > maxSize then
    .error (.undecodable (.snapshotTooLarge bytes.length maxSize))
  else
    match Header.ofBytes bytes with
    | .error error => .error error
    | .ok header =>
        match header.check with
        | .error error => .error error
        | .ok () =>
            match Binary.snapshot.decode (bytes.drop headerSize) with
            | .error fault => .error (.undecodable (.snapshotData fault))
            | .ok snapshot => .ok snapshot

/-- The file that holds the state of a repository. -/
def save (repository : Repository) : Bytes :=
  encode repository.toSnapshot

/-- The repository that a file holds. -/
def load (bytes : Bytes) : Except RepositoryError Repository :=
  match decode bytes with
  | .error error => .error error
  | .ok snapshot => .ok (.ofSnapshot snapshot)

end ModelRepository.SnapshotFile
