import ModelRepository.Proofs.Binary.Compactness
import ModelRepository.Proofs.Repository.Snapshot
import ModelRepository.Proofs.Storage.SnapshotFile

/-! A repository that was read from a file is written to a file that is no longer and settles it.
What was read may be padded, unsorted, repetitive or followed by other bytes. Whatever the repository
does not keep of it only made the file longer, so the new file keeps to the limit and is read again,
and from there on nothing changes.
-/

namespace ModelRepository

open Std
open Binary

-----------------------------------------------------------------------------------------
-- The bytes of a snapshot
-----------------------------------------------------------------------------------------

/-- The parts of a snapshot are written side by side. -/
theorem Snapshot.length_encode (snapshot : Snapshot)
    : (Binary.snapshot.encode snapshot).length
      = (Binary.configuration.encode snapshot.configuration).length
        + (((Layout.list Layout.text).encode snapshot.partitions).length
          + (((Layout.list node).encode snapshot.nodes).length
            + ((writeNumber snapshot.version.toNat []).length
              + (writeNumber snapshot.nextId.toNat []).length))) := by
  have written : Binary.snapshot.encode snapshot
      = Binary.configuration.encode snapshot.configuration
        ++ ((Layout.list Layout.text).encode snapshot.partitions
          ++ ((Layout.list node).encode snapshot.nodes
            ++ (writeNumber snapshot.version.toNat [] ++ writeNumber snapshot.nextId.toNat []))) := by
    rw [← writeNumber_eq, ← node_compact.list.write_eq, ← Layout.text_compact.list.write_eq,
      ← configuration_compact.write_eq]
    rfl
  simp only [written, List.length_append]

/-- What a repository keeps of a snapshot takes no more bytes than the snapshot. -/
theorem Repository.length_encode_le (snapshot : Snapshot)
    : (Binary.snapshot.encode (ofSnapshot snapshot).toSnapshot).length
      ≤ (Binary.snapshot.encode snapshot).length := by
  have partitions : ((Layout.list Layout.text).encode (ofSnapshot snapshot).partitions.toList).length
      ≤ ((Layout.list Layout.text).encode snapshot.partitions).length :=
    Layout.length_encode_list_le Layout.text_compact
      (IdSet.toList_ofIds_subperm snapshot.partitions)
  have nodes : ((Layout.list node).encode (ofSnapshot snapshot).nodes.values).length
      ≤ ((Layout.list node).encode snapshot.nodes).length :=
    Layout.length_encode_list_le node_compact (Index.values_ofInstances_subperm snapshot.nodes)
  have counter : (writeNumber (ofSnapshot snapshot).nextId.toNat []).length
      ≤ (writeNumber snapshot.nextId.toNat []).length := by
    rw [nextId_ofSnapshot]
    split
    · rename_i zero
      rw [zero]
      decide +kernel
    · exact Nat.le_refl _
  rw [Snapshot.length_encode, Snapshot.length_encode]
  exact Nat.add_le_add_left (Nat.add_le_add partitions
    (Nat.add_le_add nodes (Nat.add_le_add_left counter _))) _

-----------------------------------------------------------------------------------------
-- Files
-----------------------------------------------------------------------------------------

/-- A file is no shorter than that of the repository which it holds. -/
theorem SnapshotFile.length_save_le {file : Bytes} {snapshot : Snapshot}
    (accepted : decode file = .ok snapshot)
    : (save (.ofSnapshot snapshot)).length ≤ file.length := by
  obtain ⟨content, rfl, -, read⟩ := decode_eq_ok_iff.mp accepted
  have kept := Repository.length_encode_le snapshot
  have compact := snapshot_compact.length_encode_le_of_decode read
  rw [save, encode, List.length_append, List.length_append, List.length_cons, List.length_cons]
  omega

/-- Whatever file is accepted, the repository that it holds is written to a file that is no longer,
and that is accepted as well and holds the very same repository, so it is written in the same way
ever after. The file may pad numbers, list partitions and instances in any order and more than once,
leave the counter at zero and go on with other bytes.
-/
theorem accepted_file_is_settled (file : Bytes) (snapshot : Snapshot)
    (accepted : SnapshotFile.decode file = .ok snapshot)
    : let repository := Repository.ofSnapshot snapshot
      let again := SnapshotFile.save repository
      again.length ≤ file.length
      ∧ SnapshotFile.decode again = .ok repository.toSnapshot
      ∧ SnapshotFile.load again = .ok repository
      ∧ (SnapshotFile.load again).map SnapshotFile.save = .ok again := by
  obtain ⟨_, _, small, _⟩ := SnapshotFile.decode_eq_ok_iff.mp accepted
  have shorter := SnapshotFile.length_save_le accepted
  have reread : SnapshotFile.decode (SnapshotFile.save (.ofSnapshot snapshot))
      = .ok (Repository.ofSnapshot snapshot).toSnapshot :=
    SnapshotFile.decode_encode (Nat.le_trans shorter small)
  have loaded : SnapshotFile.load (SnapshotFile.save (.ofSnapshot snapshot))
      = .ok (.ofSnapshot snapshot) := by
    rw [SnapshotFile.load, reread]
    exact congrArg Except.ok (Repository.ofSnapshot_toSnapshot
      (Repository.keyed_ofSnapshot snapshot) (Repository.nextId_ofSnapshot_ne_zero snapshot))
  refine ⟨shorter, reread, loaded, ?_⟩
  rw [loaded]
  rfl

-- A file that no repository writes.

/-- A snapshot out of order: a partition and an instance are listed twice, the instance with a label
and without, and the counter has not started.
-/
def Snapshot.untidy : Snapshot where
  configuration := { name := "untidy" }
  partitions := ["right", "left", "right"]
  nodes := [
    { id := "right"
      classifier := .complete "shapes" "1" "Box"
      containments := [⟨.complete "shapes" "1" "content", ["leaf"]⟩] },
    { id := "left", classifier := .complete "shapes" "1" "Box" },
    { id := "leaf"
      classifier := .complete "shapes" "1" "Node"
      parent := some "right"
      properties := [⟨.complete "shapes" "1" "label", some "Größe"⟩] },
    { id := "leaf", classifier := .complete "shapes" "1" "Node", parent := some "right" }]
  version := 300
  nextId := 0

namespace SnapshotFile

/-- A file of that snapshot which spends two bytes on the counter and goes on with two more. -/
def padded : Bytes :=
  magic ++ version ::
    Binary.configuration.write Snapshot.untidy.configuration
      ((Layout.list Layout.text).write Snapshot.untidy.partitions
        ((Layout.list node).write Snapshot.untidy.nodes
          (Layout.word64.write Snapshot.untidy.version [128, 0, 255, 255])))

theorem decode_padded : decode padded = .ok Snapshot.untidy := by
  have configuration : Snapshot.untidy.configuration.Fits := by decide +kernel
  have partitions : ListFits TextFits Snapshot.untidy.partitions := by decide +kernel
  have nodes : ListFits Instance.Fits Snapshot.untidy.nodes := by decide +kernel
  have counter : Layout.word64.read [128, 0, 255, 255] = .ok (0, [255, 255]) := by decide +kernel
  refine decode_eq_ok_iff.mpr ⟨_, rfl, by decide +kernel, ?_⟩
  simp only [Layout.decode, Binary.snapshot, Layout.via, Layout.pair, Reading.andThen,
    configuration_faithful.read_write _ _ configuration,
    Layout.text_faithful.list.read_write _ _ partitions,
    node_faithful.list.read_write _ _ nodes,
    Layout.word64_faithful.read_write _ _ trivial,
    counter]
  rfl

end SnapshotFile

/-- The padded file is read, and its repository is settled by the file that it is written to. -/
theorem padded_file_is_settled
    : SnapshotFile.decode SnapshotFile.padded = .ok Snapshot.untidy
      ∧ let repository := Repository.ofSnapshot Snapshot.untidy
        let again := SnapshotFile.save repository
        again.length ≤ SnapshotFile.padded.length
        ∧ SnapshotFile.decode again = .ok repository.toSnapshot
        ∧ SnapshotFile.load again = .ok repository
        ∧ (SnapshotFile.load again).map SnapshotFile.save = .ok again :=
  ⟨SnapshotFile.decode_padded, accepted_file_is_settled _ _ SnapshotFile.decode_padded⟩

end ModelRepository
