import ModelRepository.Proofs.Binary.Size
import ModelRepository.SnapshotFile

/-! Which bytes pass for a snapshot file, and what is read from them.
A file is the header, then the bytes of a snapshot, then anything at all, and no larger than the
limit. The limit bounds the sizes of all texts and lists, so what fits in a file comes back from it.
-/

namespace ModelRepository

open Binary

namespace SnapshotFile

/-- Of all headers only the one that is written passes. -/
theorem Header.check_eq_ok_iff {header : Header} : header.check = .ok () ↔ header = {} := by
  obtain ⟨mark, release⟩ := header
  unfold check
  split
  · simp_all
  · split <;> simp_all

theorem Header.undecodable_of_check {header : Header} {error : RepositoryError}
    (refused : header.check = .error error)
    : ∃ fault, error = .undecodable fault := by
  unfold check at refused
  split at refused
  · cases refused
    exact ⟨_, rfl⟩
  · split at refused
    · cases refused
      exact ⟨_, rfl⟩
    · cases refused

theorem Header.undecodable_of_ofBytes {bytes : Bytes} {error : RepositoryError}
    (refused : ofBytes bytes = .error error)
    : ∃ fault, error = .undecodable fault := by
  unfold ofBytes at refused
  split at refused
  · cases refused
  · cases refused
    exact ⟨_, rfl⟩

variable {file : Bytes} {snapshot : Snapshot}

/-- A snapshot is read from the content behind the header, exactly if the whole is not too large. -/
theorem decode_eq_ok_iff
    : decode file = .ok snapshot
      ↔ ∃ content,
          file = magic ++ version :: content
          ∧ file.length ≤ maxSize
          ∧ Binary.snapshot.decode content = .ok snapshot := by
  constructor
  · intro done
    unfold decode at done
    split at done
    · cases done
    · split at done
      · cases done
      · rename_i small
        split at done
        · cases done
        · rename_i header found
          split at done
          · cases done
          · rename_i checked
            split at done
            · cases done
            · rename_i read
              cases done
              refine ⟨file.drop headerSize, ?_, Nat.not_lt.mp small, read⟩
              cases Header.check_eq_ok_iff.mp checked
              unfold Header.ofBytes at found
              split at found
              · cases found
                rfl
              · cases found
  · rintro ⟨content, rfl, small, read⟩
    have long : ¬ (magic ++ version :: content).length < headerSize := by
      simp [magic, headerSize]
    have header : Header.ofBytes (magic ++ version :: content) = .ok {} := rfl
    have checked : Header.check {} = .ok () := rfl
    have behind : (magic ++ version :: content).drop headerSize = content := rfl
    rw [decode, if_neg long, if_neg (Nat.not_lt.mpr small)]
    simp only [header, checked, behind, read]

/-- Whatever is wrong with a file, it is reported as bytes that cannot be read. -/
theorem undecodable_of_decode {error : RepositoryError} (refused : decode file = .error error)
    : ∃ fault, error = .undecodable fault := by
  unfold decode at refused
  split at refused
  · cases refused
    exact ⟨_, rfl⟩
  · split at refused
    · cases refused
      exact ⟨_, rfl⟩
    · split at refused
      · rename_i found
        cases refused
        exact Header.undecodable_of_ofBytes found
      · split at refused
        · rename_i failed
          cases refused
          exact Header.undecodable_of_check failed
        · split at refused
          · cases refused
            exact ⟨_, rfl⟩
          · cases refused

/-- A snapshot that was read from a file fits. -/
theorem fits_of_decode (done : decode file = .ok snapshot) : snapshot.Fits := by
  obtain ⟨content, -, -, read⟩ := decode_eq_ok_iff.mp done
  exact snapshot_faithful.fits_of_decode read

/-- A file of an admissible size is read back, whatever it was made from: its size bounds those of
all texts and lists in it.
-/
theorem decode_encode (small : (encode snapshot).length ≤ maxSize)
    : decode (encode snapshot) = .ok snapshot := by
  have length : (encode snapshot).length
      = headerSize + (Binary.snapshot.encode snapshot).length := by
    simp [encode, magic, headerSize]
    omega
  have few : (Binary.snapshot.encode snapshot).length < UInt64.size := by
    have limit : maxSize < UInt64.size := by decide
    omega
  exact decode_eq_ok_iff.mpr ⟨_, rfl, small,
    snapshot_faithful.decode_encode (snapshot_sized.fits_of_length snapshot [] few)⟩

end SnapshotFile

end ModelRepository
