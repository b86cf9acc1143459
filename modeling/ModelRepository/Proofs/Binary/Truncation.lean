import ModelRepository.Proofs.Binary.Delimiting
import ModelRepository.Proofs.Chunk.Admission
import ModelRepository.Proofs.Storage.SnapshotFile

/-! A file that was cut off is never read as a smaller one.
A snapshot file and an archive end with the bytes of one value. If what is left of them still opened
the right way and held a value, the whole would hold that value in front of what was cut off, and so
nothing can have been.
-/

namespace ModelRepository

open Binary

-----------------------------------------------------------------------------------------
-- Archives
-----------------------------------------------------------------------------------------

namespace Archive

variable {bytes content other : Bytes} {header another : Header}

/-- A file opens the same way whatever follows it, and what follows is content. -/
theorem Opens.append (opens : Opens bytes header content) (more : Bytes)
    : Opens (bytes ++ more) header (content ++ more) := by
  cases opens with
  | @at_length a b c d rest length _ stated within read =>
      have read : Header.layout.decode ((rest ++ more).take length) = .ok header := by
        rwa [List.take_append_of_le_length within]
      have within' : length ≤ (rest ++ more).length := by
        rw [List.length_append]
        omega
      have opens := Opens.at_length stated within' read
      rwa [List.drop_append_of_le_length within] at opens

/-- A file opens in one way only. -/
theorem Opens.unique (opens : Opens bytes header content) (again : Opens bytes another other)
    : another = header ∧ other = content := by
  cases opens with
  | at_length stated within read =>
      cases again with
      | at_length stated' within' read' =>
          subst stated stated'
          exact ⟨Except.ok.inj (read'.symm.trans read), rfl⟩

theorem undecodable_of_decodeContent {error : RepositoryError}
    (refused : decodeContent header content = .error error)
    : ∃ fault, error = .undecodable fault := by
  unfold decodeContent at refused
  split at refused
  · cases refused
    exact ⟨_, rfl⟩
  · dsimp only at refused
    split at refused
    · cases refused
      exact ⟨_, rfl⟩
    · split at refused
      · cases refused
        exact ⟨_, rfl⟩
      · cases refused

theorem Header.undecodable_of_check {error : RepositoryError}
    (refused : header.check = .error error)
    : ∃ fault, error = .undecodable fault := by
  unfold check at refused
  split at refused
  · cases refused
    exact ⟨_, rfl⟩
  · split at refused
    · cases refused
      exact ⟨_, rfl⟩
    · cases refused

/-- Whatever is wrong with an archive, it is reported as bytes that cannot be read. -/
theorem undecodable_of_decode {error : RepositoryError} (refused : decode bytes = .error error)
    : ∃ fault, error = .undecodable fault := by
  unfold decode at refused
  split at refused
  · dsimp only at refused
    split at refused
    · cases refused
      exact ⟨_, rfl⟩
    · split at refused
      · cases refused
        exact ⟨_, rfl⟩
      · split at refused
        · rename_i failed
          cases refused
          exact Header.undecodable_of_check failed
        · exact undecodable_of_decodeContent refused
  · cases refused
    exact ⟨_, rfl⟩

/-- An archive that is accepted is no proper part in front of another one. -/
theorem eq_nil_of_decode {chunk found : Chunk} {cut more : Bytes}
    (whole : cut ++ more = encode chunk) (accepted : decode cut = .ok found)
    : more = [] := by
  obtain ⟨held, opens, read⟩ := decode_eq_ok_iff.mp accepted
  have extended := opens.append more
  rw [whole] at extended
  obtain ⟨-, content⟩ := (opens_header (.of chunk) chunk.canonicalBytes).unique extended
  exact chunk_delimited.eq_nil_of_decode content read

end Archive

-----------------------------------------------------------------------------------------
-- Snapshot files
-----------------------------------------------------------------------------------------

/-- A snapshot file that is accepted is no proper part in front of another one. -/
theorem SnapshotFile.eq_nil_of_decode {snapshot found : Snapshot} {cut more : Bytes}
    (whole : cut ++ more = encode snapshot) (accepted : decode cut = .ok found)
    : more = [] := by
  obtain ⟨content, rfl, -, read⟩ := decode_eq_ok_iff.mp accepted
  rw [encode, List.append_assoc, List.cons_append] at whole
  have behind := List.cons.inj (List.append_cancel_left whole)
  exact snapshot_delimited.eq_nil_of_decode behind.2 read

-----------------------------------------------------------------------------------------
-- Truncated files
-----------------------------------------------------------------------------------------

/-- Bytes in front of a file that are not all of it leave something out. -/
theorem exists_append_of_truncated {cut file : Bytes} (front : cut <+: file) (short : cut ≠ file)
    : ∃ more, cut ++ more = file ∧ more ≠ [] := by
  obtain ⟨more, rfl⟩ := front
  exact ⟨more, rfl, fun nothing => short (by rw [nothing, List.append_nil])⟩

/-- The snapshot file of a repository and the archive of a chunk are refused wherever they are cut
off, in a length, in the header, in the middle of a number or a text, or between two items: as bytes
that cannot be read. This holds of any repository and any chunk, whatever their sizes.
-/
theorem truncated_files_are_refused (repository : Repository) (chunk : Chunk) (cut : Bytes)
    : (cut <+: SnapshotFile.save repository
        → cut ≠ SnapshotFile.save repository
        → ∃ fault,
            SnapshotFile.decode cut = .error (.undecodable fault)
            ∧ SnapshotFile.load cut = .error (.undecodable fault))
      ∧ (cut <+: Archive.encode chunk
        → cut ≠ Archive.encode chunk
        → ∃ fault, Archive.decode cut = .error (.undecodable fault)) := by
  refine ⟨fun front short => ?_, fun front short => ?_⟩
  all_goals obtain ⟨more, whole, missing⟩ := exists_append_of_truncated front short
  · cases read : SnapshotFile.decode cut with
    | ok found => exact (missing (SnapshotFile.eq_nil_of_decode whole read)).elim
    | error error =>
        obtain ⟨fault, rfl⟩ := SnapshotFile.undecodable_of_decode read
        exact ⟨fault, rfl, by rw [SnapshotFile.load, read]⟩
  · cases read : Archive.decode cut with
    | ok found => exact (missing (Archive.eq_nil_of_decode whole read)).elim
    | error error =>
        obtain ⟨fault, rfl⟩ := Archive.undecodable_of_decode read
        exact ⟨fault, rfl⟩

-- Files that lack their last byte only.

/-- A repository whose identifier counter takes two bytes. -/
def numbered : Repository :=
  .ofParts { name := "numbered" } (IdSet.ofIds ["root"])
    (Index.ofInstances [
      { id := "root"
        classifier := .complete "shapes" "1" "Node"
        properties := [⟨.complete "shapes" "1" "label", some "Größe"⟩] }])
    7 300

/-- Neither a snapshot file that ends in the middle of that counter is read nor an archive that ends
before the mark that its last instance annotates nothing.
-/
theorem last_byte_is_not_spared
    : let cut := (SnapshotFile.save numbered).dropLast
      let short := (Archive.encode Archive.jumbled).dropLast
      (cut <+: SnapshotFile.save numbered
        ∧ cut ≠ SnapshotFile.save numbered
        ∧ ∃ fault,
            SnapshotFile.decode cut = .error (.undecodable fault)
            ∧ SnapshotFile.load cut = .error (.undecodable fault))
      ∧ short <+: Archive.encode Archive.jumbled
      ∧ short ≠ Archive.encode Archive.jumbled
      ∧ ∃ fault, Archive.decode short = .error (.undecodable fault) := by
  have differs {file : Bytes} (inhabited : 0 < file.length) : file.dropLast ≠ file := by
    intro same
    have length := congrArg List.length same
    rw [List.length_dropLast] at length
    omega
  have saved : (SnapshotFile.save numbered).dropLast ≠ SnapshotFile.save numbered :=
    differs (Nat.zero_lt_succ _)
  have archived : (Archive.encode Archive.jumbled).dropLast ≠ Archive.encode Archive.jumbled :=
    differs (Nat.zero_lt_succ _)
  exact ⟨⟨List.dropLast_prefix _, saved,
      (truncated_files_are_refused numbered Archive.jumbled _).1 (List.dropLast_prefix _) saved⟩,
    List.dropLast_prefix _, archived,
    (truncated_files_are_refused numbered Archive.jumbled _).2 (List.dropLast_prefix _) archived⟩

end ModelRepository
