import ModelRepository.Archive
import ModelRepository.Proofs.Binary.Size
import ModelRepository.Proofs.Chunk.Canonical

/-! An archive gives back the canonical form of the chunk that it was made of.
The length in front of the header is read back because a header is short, the header because its
layout is faithful, and the content because a chunk in canonical order fits if it did before. The
statements of the header hold since sorting neither adds nor drops instances.
-/

namespace ModelRepository

open Binary

-----------------------------------------------------------------------------------------
-- What fits in canonical order
-----------------------------------------------------------------------------------------

namespace Binary.ListFits

variable {α β : Type} {itemFits : α → Prop} {changedFits : β → Prop} {values : List α}

theorem of_perm {other : List α} (fits : ListFits itemFits values) (same : other.Perm values)
    : ListFits itemFits other :=
  ⟨same.length_eq ▸ fits.1, fun value member => fits.2 value (same.mem_iff.mp member)⟩

theorem map {change : α → β} (fits : ListFits itemFits values)
    (kept : ∀ value, itemFits value → changedFits (change value))
    : ListFits changedFits (values.map change) := by
  refine ⟨by simpa using fits.1, fun changed member => ?_⟩
  obtain ⟨value, before, rfl⟩ := List.mem_map.mp member
  exact kept value (fits.2 value before)

theorem sortOn {κ : Type} [Ord κ] (fits : ListFits itemFits values) (key : α → κ)
    : ListFits itemFits (sortOn key values) :=
  fits.of_perm (sortOn_perm key values)

end Binary.ListFits

theorem Instance.Fits.canonical {node : Instance} (fits : node.Fits) : node.canonical.Fits := by
  obtain ⟨id, classifier, parent, properties, containments, references, annotations, annotated⟩ :=
    fits
  refine ⟨id, classifier, parent, properties.sortOn _, ListFits.sortOn (containments.map ?_) _,
    ListFits.sortOn (references.map ?_) _, annotations.sortOn _, annotated⟩
  · exact fun containment whole => ⟨whole.1, whole.2.sortOn _⟩
  · exact fun reference whole => ⟨whole.1, whole.2.sortOn _⟩

theorem Chunk.Fits.canonical {chunk : Chunk} (fits : chunk.Fits) : chunk.canonical.Fits := by
  obtain ⟨⟨declared, languages⟩, instances⟩ := fits
  refine ⟨⟨?_, fun language listed => ?_⟩,
    ListFits.sortOn (instances.map fun _ whole => whole.canonical) _⟩
  · have fewer := size_foldl_insert_le chunk.languages (∅ : Std.ExtTreeSet Language)
    rw [Std.ExtTreeSet.size_empty, Nat.zero_add, ← Std.ExtTreeSet.length_toList] at fewer
    exact Nat.lt_of_le_of_lt fewer declared
  · have member := Std.ExtTreeSet.mem_toList.mp listed
    rw [mem_foldl_insert_iff] at member
    exact languages language (member.resolve_left Std.ExtTreeSet.not_mem_empty)

-----------------------------------------------------------------------------------------
-- Headers
-----------------------------------------------------------------------------------------

namespace Archive

open Binary.Layout

theorem Header.layout_faithful : Header.layout.Faithful fun _ => True :=
  (((byte_faithful.pair (byte_faithful.pair (byte_faithful.pair byte_faithful))).pair
    (byte_faithful.pair (word64_faithful.pair word64_faithful))).via
    (fun _ => rfl) (fun _ => rfl)).congr fun _ => by simp

/-- Five bytes and two words make at most twenty-five bytes. -/
theorem Header.length_encode_le (header : Header) : (Header.layout.encode header).length ≤ 25 := by
  have checksum := length_writeNumber_le (by decide : 1 < 128) 9 header.checksum.toNat_lt []
  have count := length_writeNumber_le (by decide : 1 < 128) 9 header.instanceCount.toNat_lt
    (writeNumber header.checksum.toNat [])
  have size : (Header.layout.encode header).length
      = (writeNumber header.instanceCount.toNat
          (writeNumber header.checksum.toNat [])).length + 5 := rfl
  rw [List.length_nil] at checksum
  omega

/-- A length below 2^32 is read back from its four bytes. -/
theorem sum_lengthBytes {length : Nat} (short : length < UInt32.size)
    : (UInt8.ofNat length).toNat + (UInt8.ofNat (length / 256)).toNat * 256
        + (UInt8.ofNat (length / 65536)).toNat * 65536
        + (UInt8.ofNat (length / 16777216)).toNat * 16777216
      = length := by
  have bound : length < 4294967296 := short
  simp only [UInt8.toNat_ofNat']
  omega

-----------------------------------------------------------------------------------------
-- Archives
-----------------------------------------------------------------------------------------

/-- The length in the first four bytes makes out a header behind them. The rest is the content. -/
inductive Opens : Bytes → Header → Bytes → Prop
  | at_length {a b c d : UInt8} {rest : Bytes} {length : Nat} {header : Header}
    (stated : a.toNat + b.toNat * 256 + c.toNat * 65536 + d.toNat * 16777216 = length)
    (within : length ≤ rest.length)
    (read : Header.layout.decode (rest.take length) = .ok header)
    : Opens (a :: b :: c :: d :: rest) header (rest.drop length)

/-- The content of an archive is read once its header has passed. -/
theorem decode_of_opens {bytes content : Bytes} {header : Header}
    (opens : Opens bytes header content) (checked : header.check = .ok ())
    : decode bytes = decodeContent header content := by
  cases opens with
  | at_length stated within read =>
      simp only [decode, stated, if_neg (Nat.not_lt.mpr within), read, checked]

/-- A header with its length in front of it opens whatever content follows. -/
theorem opens_header (header : Header) (content : Bytes)
    : Opens (lengthBytes (Header.layout.encode header).length ++ Header.layout.encode header
        ++ content) header content := by
  have short : (Header.layout.encode header).length < UInt32.size :=
    Nat.lt_of_le_of_lt header.length_encode_le (by decide)
  have within : (Header.layout.encode header).length
      ≤ (Header.layout.encode header ++ content).length := by simp
  have read : Header.layout.decode ((Header.layout.encode header ++ content).take
      (Header.layout.encode header).length) = .ok header := by
    rw [List.take_left]
    exact Header.layout_faithful.decode_encode trivial
  have opens := Opens.at_length (sum_lengthBytes short) within read
  rwa [List.drop_left] at opens

/-- The content of an archive passes for what its header states. -/
theorem decodeContent_canonicalBytes {chunk : Chunk} (fits : chunk.Fits)
    : decodeContent (.of chunk) chunk.canonicalBytes = .ok chunk.canonical := by
  have read : Binary.chunk.decode chunk.canonicalBytes = .ok chunk.canonical :=
    chunk_faithful.decode_encode fits.canonical
  have count : UInt64.ofNat chunk.canonical.size = (Header.of chunk).instanceCount := by
    rw [Chunk.size_canonical]
    rfl
  have checksum : Digest.checksum (Binary.chunk.encode chunk.canonical)
      = (Header.of chunk).checksum := rfl
  simp only [decodeContent, read, count, checksum, ne_eq, not_true, if_false]

theorem decode_encode {chunk : Chunk} (fits : chunk.Fits)
    : decode (encode chunk) = .ok chunk.canonical :=
  (decode_of_opens (opens_header (.of chunk) chunk.canonicalBytes) rfl).trans
    (decodeContent_canonicalBytes fits)

/-- The archive of any chunk, as far as a machine can hold it, is read back as the canonical form of
that chunk, which means the same as the chunk and has the very same archive: with identifiers and
pointers that are repeated or parts of pointers that are absent, and with lists in any order.
-/
theorem archive_holds_canonical_form (chunk : Chunk) (fits : chunk.Fits)
    : decode (encode chunk) = .ok chunk.canonical
      ∧ chunk.canonical.isEquivalent chunk = true
      ∧ encode chunk.canonical = encode chunk := by
  refine ⟨decode_encode fits, ?_, ?_⟩
  · simp [Chunk.isEquivalent, chunk.canonical_canonical]
  · have bytes : chunk.canonical.canonicalBytes = chunk.canonicalBytes := by
      rw [Chunk.canonicalBytes, Chunk.canonical_canonical, Chunk.canonicalBytes]
    have header : Header.of chunk.canonical = Header.of chunk := by
      rw [Header.of, Header.of, Chunk.size_canonical, Chunk.checksum, Chunk.checksum, bytes]
    rw [encode, encode, header, bytes]

-- A chunk that names everything twice, leaves parts of its pointers out and sorts nothing.

/-- Two instances with one identifier, of which one has two values under one incomplete pointer. -/
def jumbled : Chunk :=
  { formatVersion := .v2023_1
    languages := [⟨"shapes", "2"⟩, ⟨"shapes", "1"⟩, ⟨"shapes", "2"⟩]
    instances :=
      [ { id := "twin"
          classifier := ⟨none, some "1", none⟩
          properties :=
            [ ⟨⟨none, none, some "label"⟩, some "second"⟩, ⟨⟨none, none, some "label"⟩, none⟩,
              ⟨.complete "shapes" "1" "label", some "first"⟩ ]
          containments :=
            [ ⟨⟨some "shapes", none, none⟩, ["twin", "child", "twin"]⟩,
              ⟨⟨some "shapes", none, none⟩, []⟩ ]
          references := [⟨⟨none, none, none⟩, [⟨none, some "later"⟩, ⟨some "twin", none⟩]⟩] },
        { id := "child", classifier := .complete "shapes" "2" "Node", parent := some "twin" },
        { id := "twin", classifier := .complete "shapes" "2" "Node" } ] }

/-- That chunk is not canonical, and its archive is the one of its canonical form. -/
theorem jumbled_archived
    : jumbled.Fits
      ∧ jumbled.canonical ≠ jumbled
      ∧ decode (encode jumbled) = .ok jumbled.canonical
      ∧ jumbled.canonical.isEquivalent jumbled = true
      ∧ encode jumbled.canonical = encode jumbled := by
  have fits : jumbled.Fits := by decide
  have unsorted : jumbled.canonical ≠ jumbled := by decide +kernel
  exact ⟨fits, unsorted, archive_holds_canonical_form jumbled fits⟩

end Archive

end ModelRepository
