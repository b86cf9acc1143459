import ModelRepository.Proofs.Repository.Consistency
import ModelRepository.Proofs.Repository.Snapshot
import ModelRepository.Proofs.Server.Runs
import ModelRepository.Proofs.Storage.SnapshotFile
import ModelRepository.Proofs.Storage.Writes

/-! Snapshot files carry repositories from one server to another.
A file lists the instances of a repository without the identifiers under which they are indexed,
and an import checks the name and the stance on history once more. Nothing is lost for all that:
whatever a server serves is indexed by its own identifiers, has a valid name and keeps no history,
since this holds of every new and every imported repository and no operation takes it away.
-/

namespace ModelRepository

open Std
open Binary

-----------------------------------------------------------------------------------------
-- Repositories that lose nothing in a snapshot
-----------------------------------------------------------------------------------------

/-- A repository under its name that an import takes over as it is. -/
structure Repository.Transferable (name : String) (repository : Repository) : Prop where
  named : repository.name = name
  valid : isValidName name = true
  disabled : repository.configuration.history = .disabled
  keyed : repository.nodes.Keyed
  counter : repository.nextId ≠ 0

-----------------------------------------------------------------------------------------
-- Runs
-----------------------------------------------------------------------------------------

namespace Server

/-- Every repository that is created or imported is transferable, and writes and allocations leave
it so.
-/
theorem kept_transferable : Kept Repository.Transferable := by
  refine ⟨?_, ?_, ?_, ?_⟩
  · intro configuration valid disabled
    exact ⟨rfl, valid, disabled, by simp [Index.Keyed, Repository.create],
      (by decide : (1 : UInt64) ≠ 0)⟩
  · intro file snapshot read valid disabled
    have storable := Repository.ofSnapshot_storable (SnapshotFile.fits_of_decode read)
    exact ⟨rfl, valid, disabled, Repository.keyed_ofSnapshot snapshot, storable.counter⟩
  · intro name before request after changes transferable done
    obtain ⟨-, effect⟩ := Repository.commits_of_perform done
    have configuration := effect.configuration
    refine ⟨?_, transferable.valid, ?_, ?_, effect.counters.2 ▸ transferable.counter⟩
    · exact (congrArg Configuration.name configuration).trans transferable.named
    · exact (congrArg Configuration.history configuration).trans transferable.disabled
    · exact effect.keyed transferable.keyed
  · intro name before count after ids transferable done
    unfold Repository.allocate at done
    split at done
    · rename_i counted
      cases done
      exact ⟨transferable.named, transferable.valid, transferable.disabled, transferable.keyed,
        ne_zero_of_allocateFrom transferable.counter counted⟩
    · cases done

/-- The file of a snapshot is imported as it was written where its repository is admitted. -/
theorem importSnapshot_encode {snapshot : Snapshot} {server : Server}
    (small : (SnapshotFile.encode snapshot).length ≤ SnapshotFile.maxSize)
    (admitted : server.admissionError? snapshot.configuration = none)
    : server.importSnapshot (SnapshotFile.encode snapshot)
      = .ok (server.add (.ofSnapshot snapshot), snapshot.configuration.name) := by
  simp only [importSnapshot, SnapshotFile.decode_encode small, admitted]

/-- Importing the file of a transferable repository adds that repository wherever its name is
free.
-/
theorem importSnapshot_save {repository : Repository} {name : String} {server : Server}
    (transferable : repository.Transferable name)
    (small : (SnapshotFile.save repository).length ≤ SnapshotFile.maxSize)
    (free : name ∉ server.repositories)
    : server.importSnapshot (SnapshotFile.save repository) = .ok (server.add repository, name) := by
  have named : repository.configuration.name = name := transferable.named
  have admitted : server.admissionError? repository.configuration = none := by
    rw [admissionError?_eq_none_iff, named]
    exact ⟨transferable.valid, transferable.disabled, free⟩
  have imported : server.importSnapshot (SnapshotFile.save repository)
      = .ok (server.add (.ofSnapshot repository.toSnapshot), repository.configuration.name) :=
    importSnapshot_encode small admitted
  rw [imported, Repository.ofSnapshot_toSnapshot transferable.keyed transferable.counter, named]

theorem answer_snapshotFile {server : Server} {name : String} {repository : Repository}
    (served : server.repositories[name]? = some repository)
    : server.answer (.snapshotFile name) = .ok (.file (SnapshotFile.save repository)) := by
  simp only [answer, about, repository_of_found served]

/-- A repository that any run of operations leaves on a server can be exported, and unless its file
is too large, every server on which its name is free imports that file, tells the name, serves the
very same repository under it and exports it into the very same file again. The run may start with
or without a database and import other files, whatever these hold.
-/
theorem exported_repository_imports (catalog : Catalog) (storage : Storage)
    (operations : List Operation) (name : String) (repository : Repository)
    (served : (run { catalog, storage } operations).repositories[name]? = some repository)
    (small : (SnapshotFile.save repository).length ≤ SnapshotFile.maxSize)
    : let file := SnapshotFile.save repository
      ((run { catalog, storage } operations).perform (.ask (.snapshotFile name))).answer
        = .ok (.file file)
      ∧ ∀ other : Server,
          name ∉ other.repositories
          → let outcome := other.perform (.importSnapshot file)
            outcome.answer = .ok (.name name)
            ∧ outcome.server.repositories[name]? = some repository
            ∧ (outcome.server.perform (.ask (.snapshotFile name))).answer = .ok (.file file) := by
  have transferable := kept_transferable.run catalog storage operations name repository served
  refine ⟨answer_snapshotFile served, fun other free => ?_⟩
  have imported := importSnapshot_save transferable small free
  have added : (other.add repository).repositories[name]? = some repository := by
    simp [add, transferable.named]
  simp only [perform, imported]
  exact ⟨rfl, added, answer_snapshotFile added⟩

-- A server that imports a file which no server wrote, and whose repository moves on from there.

/-- A snapshot in which a partition and an instance are listed twice and the counter is zero. -/
def handmade : Snapshot :=
  { configuration := { name := "tidy" }
    partitions := ["root", "root"]
    nodes := .withChildren "left" none ["stale"] :: Repository.tidyInstances
    version := 7
    nextId := 0 }

/-- Imports that snapshot beside another repository, tries to store a root that is no partition,
allocates identifiers and deletes the other repository.
-/
def migration : List Operation :=
  [ .ensureDefault,
    .importSnapshot (SnapshotFile.encode handmade),
    .store "tidy" [.withChildren "annex" none []],
    .bulkAllocate "tidy" 2,
    .deleteRepository "default" ]

/-- A server with an empty database takes over what the migration leaves. -/
theorem migration_imports
    : ∃ repository,
        (run {} migration).repositories["tidy"]? = some repository
        ∧ repository.nextId = 3
        ∧ (SnapshotFile.save repository).length ≤ SnapshotFile.maxSize
        ∧ let outcome :=
            perform { storage := .database {} } (.importSnapshot (SnapshotFile.save repository))
          outcome.answer = .ok (.name "tidy")
          ∧ outcome.server.repositories["tidy"]? = some repository := by
  let start := run {} [.ensureDefault]
  have read : SnapshotFile.decode (SnapshotFile.encode handmade) = .ok handmade :=
    SnapshotFile.decode_encode (by decide +kernel)
  have admitted : start.admissionError? handmade.configuration = none := by decide +kernel
  have imported : (start.perform (.importSnapshot (SnapshotFile.encode handmade))).server
      = start.add (.ofSnapshot handmade) := by
    simp only [perform, importSnapshot, read, admitted]
    rfl
  -- Reading the file does not evaluate in the kernel, the operations before and behind it do.
  have split : run {} migration = run (start.add (.ofSnapshot handmade)) (migration.drop 2) := by
    rw [← imported]
    rfl
  have present : (run {} migration).repositories["tidy"]?.isSome = true := by
    rw [split]
    decide +kernel
  have facts : ∀ repository ∈ (run {} migration).repositories["tidy"]?,
      repository.nextId = 3 ∧ (SnapshotFile.save repository).length ≤ SnapshotFile.maxSize := by
    rw [split]
    decide +kernel
  obtain ⟨repository, served⟩ := Option.isSome_iff_exists.mp present
  obtain ⟨counter, small⟩ := facts repository served
  obtain ⟨-, imports⟩ := exported_repository_imports .standard .memory migration "tidy" repository
    served small
  obtain ⟨answered, taken, -⟩ := imports { storage := .database {} } (by simp)
  exact ⟨repository, served, counter, small, answered, taken⟩

end Server

end ModelRepository
