import ModelRepository.Proofs.Chunk.Archive
import ModelRepository.Proofs.Digest.Checksum

/-! Archives whose content was damaged after they were written.
The header still states the count and the checksum of the chunk that was archived. The content is
read, and its chunk is encoded once more to be compared with the header, so these statements speak
for the damaged bytes where they are the encoding of what they are read as.
-/

namespace ModelRepository

open Binary (Bytes)

namespace Archive

variable {chunk found : Chunk} {content : Bytes}

-----------------------------------------------------------------------------------------
-- Content behind a header
-----------------------------------------------------------------------------------------

/-- The header of a chunk with other content behind it. -/
def withContent (chunk : Chunk) (content : Bytes) : Bytes :=
  let header := Header.layout.encode (.of chunk)
  lengthBytes header.length ++ header ++ content

theorem encode_eq_withContent (chunk : Chunk)
    : encode chunk = withContent chunk chunk.canonicalBytes :=
  rfl

/-- The bytes are the encoding of the chunk that they are read as. -/
structure Spells (content : Bytes) (found : Chunk) : Prop where
  read : Binary.chunk.decode content = .ok found
  written : Binary.chunk.encode found = content

theorem spells_canonicalBytes (fits : chunk.Fits)
    : Spells chunk.canonicalBytes chunk.canonical :=
  ⟨Binary.chunk_faithful.decode_encode fits.canonical, rfl⟩

/-- Content that spells a chunk passes if it has the count and the checksum of the one archived. -/
theorem decode_withContent (spells : Spells content found)
    : decode (withContent chunk content)
      = if UInt64.ofNat found.size ≠ UInt64.ofNat chunk.size then
          .error (.undecodable .archiveCount)
        else if Digest.checksum content ≠ chunk.checksum then
          .error (.undecodable (.archiveChecksum chunk.checksum (Digest.checksum content)))
        else .ok found := by
  rw [withContent, decode_of_opens (opens_header (.of chunk) content) rfl]
  simp only [decodeContent, spells.read, spells.written]
  rfl

-----------------------------------------------------------------------------------------
-- Damage
-----------------------------------------------------------------------------------------

/-- An archive is refused if a byte of its content was replaced by another one and the content still
spells a chunk: for the count if it changed, or else for the checksum. Bytes of one length that
differ in one position only, anywhere and at any length, have different checksums.
-/
theorem replaced_byte_is_noticed
    : (∀ (chunk found : Chunk) (content : Bytes),
        Digest.Replaced chunk.canonicalBytes content
        → Spells content found
        → decode (withContent chunk content)
          = .error (.undecodable
              (if UInt64.ofNat found.size ≠ UInt64.ofNat chunk.size then .archiveCount
              else .archiveChecksum chunk.checksum (Digest.checksum content))))
      ∧ ∀ (bytes changed : Bytes),
          bytes.length = changed.length
          → (∃! position : Nat, bytes[position]? ≠ changed[position]?)
          → Digest.checksum bytes ≠ Digest.checksum changed := by
  refine ⟨?_, ?_⟩
  · intro chunk found content replaced spells
    have noticed : Digest.checksum content ≠ chunk.checksum := replaced.checksum_ne.symm
    rw [decode_withContent spells, if_pos noticed]
    split <;> rfl
  · intro bytes changed length once
    exact (Digest.Replaced.of_existsUnique length once).checksum_ne

-- Labels stand in the content letter by letter.

/-- A chunk of one instance that has nothing but a label. -/
def labelled (label : String) : Chunk :=
  { formatVersion := .standard
    languages := []
    instances :=
      [ { id := "node"
          classifier := .complete "shapes" "1" "Node"
          properties := [⟨.complete "shapes" "1" "label", some label⟩] } ] }

theorem canonical_labelled (label : String) : (labelled label).canonical = labelled label := by
  simp [labelled, Chunk.canonical, Instance.canonical, sortOn, sorted]

theorem canonicalBytes_labelled (label : String)
    : (labelled label).canonicalBytes = Binary.chunk.encode (labelled label) := by
  rw [Chunk.canonicalBytes, canonical_labelled]

theorem spells_labelled (label : String) (fits : (labelled label).Fits)
    : Spells (labelled label).canonicalBytes (labelled label) := by
  have spells := spells_canonicalBytes fits
  rwa [canonical_labelled] at spells

/-- If a label begins with `a`, then exchanging it with a `b` further on exchanges two bytes. -/
theorem exchanged_labelled {label changed : String} {gap : Nat}
    (first : (Binary.chunk.encode (labelled label))[47]? = some 97)
    (second : (Binary.chunk.encode (labelled label))[47 + (gap + 1)]? = some 98)
    (set : Binary.chunk.encode (labelled changed)
      = ((Binary.chunk.encode (labelled label)).set 47 98).set (47 + (gap + 1)) 97)
    : Digest.Exchanged (gap + 1) (labelled label).canonicalBytes
        (labelled changed).canonicalBytes := by
  rw [canonicalBytes_labelled, canonicalBytes_labelled, set]
  exact .of_set first second (by decide)

/-- One letter of a label is replaced, and one of two bytes. -/
theorem replaced_letter_is_noticed
    : Digest.Replaced (labelled "ab").canonicalBytes (labelled "aa").canonicalBytes
      ∧ Spells (labelled "aa").canonicalBytes (labelled "aa")
      ∧ decode (withContent (labelled "ab") (labelled "aa").canonicalBytes)
        = .error (.undecodable (.archiveChecksum (labelled "ab").checksum
            (Digest.checksum (labelled "aa").canonicalBytes)))
      ∧ (∃! position : Nat, [1, 2][position]? ≠ ([1, 3] : Bytes)[position]?)
      ∧ Digest.checksum [1, 2] ≠ Digest.checksum [1, 3] := by
  have replaced : Digest.Replaced (labelled "ab").canonicalBytes
      (labelled "aa").canonicalBytes := by
    have set : (labelled "aa").canonicalBytes = (labelled "ab").canonicalBytes.set 48 97 := by
      rw [canonicalBytes_labelled, canonicalBytes_labelled]
      decide +kernel
    have found : (labelled "ab").canonicalBytes[48]? = some 98 := by
      rw [canonicalBytes_labelled]
      decide +kernel
    rw [set]
    exact .of_set found (by decide)
  have spells := spells_labelled "aa" (by decide +kernel)
  have once : ∃! position : Nat, [1, 2][position]? ≠ ([1, 3] : Bytes)[position]? := by
    refine ⟨1, by decide, fun position differs => ?_⟩
    match position with
    | 0 => exact (differs rfl).elim
    | 1 => rfl
    | _ + 2 => exact (differs rfl).elim
  exact ⟨replaced, spells, replaced_byte_is_noticed.1 _ _ _ replaced spells, once,
    replaced_byte_is_noticed.2 _ _ rfl once⟩

/-- If two bytes of a chunk in canonical order are exchanged, then what comes of it has another
checksum exactly if their distance is no multiple of 64, in case these are the bytes of another
chunk in canonical order. Behind the header of the first chunk they give back the chunk that they
spell if the distance is a multiple of 64 and the count is the same, and they are refused otherwise.
-/
theorem exchanged_bytes_are_noticed_iff (chunk : Chunk) (content : Bytes) (gap : Nat)
    (exchanged : Digest.Exchanged gap chunk.canonicalBytes content)
    : (∀ other : Chunk,
        other.canonicalBytes = content
        → (chunk.checksum ≠ other.checksum ↔ ¬ 64 ∣ gap))
      ∧ ∀ found : Chunk,
          Spells content found
          → decode (withContent chunk content)
            = if UInt64.ofNat found.size ≠ UInt64.ofNat chunk.size then
                .error (.undecodable .archiveCount)
              else if 64 ∣ gap then .ok found
              else .error (.undecodable
                (.archiveChecksum chunk.checksum (Digest.checksum content))) := by
  refine ⟨?_, fun found spells => ?_⟩
  · rintro other rfl
    exact not_congr exchanged.checksum_eq_iff
  · have unnoticed : Digest.checksum content = chunk.checksum ↔ 64 ∣ gap :=
      eq_comm.trans exchanged.checksum_eq_iff
    simp only [decode_withContent spells, ne_eq, unnoticed, ite_not]

/-- Two letters that stand next to each other change places. -/
theorem close_exchange_is_noticed
    : Digest.Exchanged 1 (labelled "ab").canonicalBytes (labelled "ba").canonicalBytes
      ∧ Spells (labelled "ba").canonicalBytes (labelled "ba")
      ∧ (labelled "ab").checksum ≠ (labelled "ba").checksum
      ∧ decode (withContent (labelled "ab") (labelled "ba").canonicalBytes)
        = .error (.undecodable (.archiveChecksum (labelled "ab").checksum
            (Digest.checksum (labelled "ba").canonicalBytes))) := by
  have exchanged : Digest.Exchanged 1 (labelled "ab").canonicalBytes
      (labelled "ba").canonicalBytes :=
    exchanged_labelled (by decide +kernel) (by decide +kernel) (by decide +kernel)
  have spells := spells_labelled "ba" (by decide +kernel)
  have noticed := exchanged_bytes_are_noticed_iff _ _ 1 exchanged
  exact ⟨exchanged, spells, (noticed.1 _ rfl).mpr (by decide), noticed.2 _ spells⟩

/-- Two letters with 63 dashes between them. -/
def dashed (first last : Char) : String :=
  .ofList (first :: (List.replicate 63 '-' ++ [last]))

/-- Two letters change places that are 64 bytes apart. The checksums of the two chunks are the same,
and one of them is given back out of the archive of the other.
-/
theorem distant_exchange_goes_unnoticed
    : Digest.Exchanged 64 (labelled (dashed 'a' 'b')).canonicalBytes
        (labelled (dashed 'b' 'a')).canonicalBytes
      ∧ (labelled (dashed 'a' 'b')).checksum = (labelled (dashed 'b' 'a')).checksum
      ∧ Spells (labelled (dashed 'b' 'a')).canonicalBytes (labelled (dashed 'b' 'a'))
      ∧ decode (withContent (labelled (dashed 'a' 'b'))
          (labelled (dashed 'b' 'a')).canonicalBytes) = .ok (labelled (dashed 'b' 'a')) := by
  have exchanged : Digest.Exchanged 64 (labelled (dashed 'a' 'b')).canonicalBytes
      (labelled (dashed 'b' 'a')).canonicalBytes :=
    exchanged_labelled (by decide +kernel) (by decide +kernel) (by decide +kernel)
  have unnoticed : Digest.checksum (labelled (dashed 'b' 'a')).canonicalBytes
      = (labelled (dashed 'a' 'b')).checksum :=
    (exchanged.checksum_eq_iff.mpr (Nat.dvd_refl 64)).symm
  have spells := spells_labelled (dashed 'b' 'a') (by decide +kernel)
  have counted : UInt64.ofNat (labelled (dashed 'b' 'a')).size
      = UInt64.ofNat (labelled (dashed 'a' 'b')).size := rfl
  refine ⟨exchanged, unnoticed.symm, spells, ?_⟩
  rw [decode_withContent spells, if_neg (not_not_intro counted), if_neg (not_not_intro unnoticed)]

end Archive

end ModelRepository
