import Mathlib
import ModelRepository.Proofs.Chunk.Archive

/-! Which bytes pass for an archive, and what is known of the chunk that they give back.
The statements of a header are checked against the chunk as the content lists it. Nobody checks the
order of its lists, so bytes that no chunk is archived as can pass as well, and then the checksum in
the header is not the one of the chunk in canonical order.
-/

namespace ModelRepository

open Binary

namespace Archive

variable {chunk : Chunk} {bytes content : Bytes} {header : Header}

/-- The header that states what is checked of a chunk. -/
def Header.stating (chunk : Chunk) : Header :=
  { instanceCount := UInt64.ofNat chunk.size
    checksum := Digest.checksum (Binary.chunk.encode chunk) }

theorem Header.check_eq_ok_iff
    : header.check = .ok () ↔ header.magic = Archive.magic ∧ header.version = Archive.version := by
  unfold check
  split
  · simp_all
  · split <;> simp_all

/-- Of all headers the one that states the right numbers lets the content of a chunk pass. -/
theorem decodeContent_eq_ok_iff (checked : header.check = .ok ())
    : decodeContent header content = .ok chunk
      ↔ header = .stating chunk ∧ Binary.chunk.decode content = .ok chunk := by
  obtain ⟨magic, version, instanceCount, checksum⟩ := header
  obtain ⟨rfl, rfl⟩ := Header.check_eq_ok_iff.mp checked
  cases read : Binary.chunk.decode content with
  | error fault => simp [decodeContent, read]
  | ok found =>
      simp only [decodeContent, read, Header.stating, Header.mk.injEq, Except.ok.injEq]
      constructor
      · intro passed
        split at passed
        · cases passed
        · rename_i count
          split at passed
          · cases passed
          · rename_i sum
            cases passed
            exact ⟨⟨trivial, trivial, (Decidable.not_not.mp count).symm,
              (Decidable.not_not.mp sum).symm⟩, rfl⟩
      · rintro ⟨⟨-, -, rfl, rfl⟩, rfl⟩
        simp

/-- Bytes are accepted exactly if they open with the header that states the right numbers of the
chunk in their content.
-/
theorem decode_eq_ok_iff
    : decode bytes = .ok chunk
      ↔ ∃ content,
          Opens bytes (.stating chunk) content ∧ Binary.chunk.decode content = .ok chunk := by
  constructor
  · intro accepted
    unfold decode at accepted
    split at accepted
    · dsimp only at accepted
      split at accepted
      · cases accepted
      · rename_i within
        split at accepted
        · cases accepted
        · rename_i header read
          split at accepted
          · cases accepted
          · rename_i checked
            obtain ⟨rfl, held⟩ := (decodeContent_eq_ok_iff checked).mp accepted
            exact ⟨_, .at_length rfl (Nat.not_lt.mp within) read, held⟩
    · cases accepted
  · rintro ⟨content, opens, held⟩
    rw [decode_of_opens opens rfl]
    exact (decodeContent_eq_ok_iff rfl).mpr ⟨rfl, held⟩

/-- The chunk as it lists things, behind the header that states its numbers. -/
def listed (chunk : Chunk) : Bytes :=
  let header := Header.layout.encode (.stating chunk)
  lengthBytes header.length ++ header ++ Binary.chunk.encode chunk

theorem decode_listed (fits : chunk.Fits) : decode (listed chunk) = .ok chunk :=
  decode_eq_ok_iff.mpr ⟨_, opens_header _ _, chunk_faithful.decode_encode fits⟩

/-- Some bytes or other give back any chunk that a machine can hold, in whatever order it lists
things. What they state of the number of instances is right, and the checksum that they state is
the one of the chunk as it stands. So it is that of the canonical form if the chunk is canonical.
-/
theorem archives_give_back_any_order (chunk : Chunk)
    : ((∃ bytes, decode bytes = .ok chunk) ↔ chunk.Fits)
      ∧ ∀ bytes,
          decode bytes = .ok chunk
          → ∃ header content,
              Opens bytes header content
              ∧ header.instanceCount.toNat = chunk.size
              ∧ header.checksum = Digest.checksum (Binary.chunk.encode chunk)
              ∧ (chunk.canonical = chunk → header.checksum = chunk.checksum) := by
  have whole {bytes : Bytes} (accepted : decode bytes = .ok chunk) : chunk.Fits := by
    obtain ⟨content, -, held⟩ := decode_eq_ok_iff.mp accepted
    exact chunk_faithful.fits_of_decode held
  refine ⟨⟨fun ⟨_, accepted⟩ => whole accepted, fun fits => ⟨_, decode_listed fits⟩⟩, ?_⟩
  intro bytes accepted
  obtain ⟨content, opens, -⟩ := decode_eq_ok_iff.mp accepted
  refine ⟨.stating chunk, content, opens, ?_, rfl, fun sorted => ?_⟩
  · have few : chunk.size < UInt64.size := (whole accepted).2.1
    exact UInt64.toNat_ofNat_of_lt' few
  · rw [Chunk.checksum, Chunk.canonicalBytes, sorted]
    rfl

/-- A chunk of two instances that have no content, in the given order. -/
def inOrder (first second : String) : Chunk :=
  { formatVersion := .standard
    languages := [⟨"shapes", "1"⟩]
    instances :=
      [ { id := first, classifier := .complete "shapes" "1" "Node" },
        { id := second, classifier := .complete "shapes" "1" "Node" } ] }

theorem canonical_inOrder : (inOrder "b" "a").canonical = inOrder "a" "b" := by
  cbv

/-- These bytes are accepted, and the chunk that comes back is neither in canonical order nor one
whose checksum is that of the header.
-/
theorem descending_given_back
    : decode (listed (inOrder "b" "a")) = .ok (inOrder "b" "a")
      ∧ (inOrder "b" "a").canonical ≠ inOrder "b" "a"
      ∧ ∃ header content,
          Opens (listed (inOrder "b" "a")) header content
          ∧ header.checksum ≠ (inOrder "b" "a").checksum := by
  have fits : (inOrder "b" "a").Fits := by decide +kernel
  refine ⟨decode_listed fits, ?_, .stating (inOrder "b" "a"), _, opens_header _ _, ?_⟩
  · rw [canonical_inOrder]
    decide +kernel
  · rw [Chunk.checksum, Chunk.canonicalBytes, canonical_inOrder]
    decide +kernel

end Archive

end ModelRepository
