import Mathlib.Data.List.Nodup
import Mathlib.Data.List.Perm.Subperm
import ModelRepository.Proofs.Index.Merge
import ModelRepository.Repository

/-! What a repository takes over of a snapshot, and what it writes down again.
A snapshot may list a partition or an identifier more than once, in any order, and may have no
counter. The repository keeps each partition and the last instance of each identifier, and starts to
count, so its own snapshot lists some of the same things in order and describes the same repository.
-/

namespace ModelRepository

open Std

/-- A set lists some of the identifiers that it was filled from. -/
theorem IdSet.toList_ofIds_subperm (ids : List String) : (ofIds ids).toList.Subperm ids :=
  List.subperm_of_subset (nodup_toList _) fun id member =>
    (mem_ofIds ids id).mp (ExtTreeSet.mem_toList.mp member)

namespace Index

theorem keyed_ofInstances (nodes : List Instance) : (ofInstances nodes).Keyed :=
  keyed_put (by simp [Keyed]) nodes

/-- An index lists some of the instances that it was filled from. -/
theorem values_ofInstances_subperm (nodes : List Instance)
    : (ofInstances nodes).values.Subperm nodes := by
  have keyed := keyed_ofInstances nodes
  refine List.subperm_of_subset (List.Nodup.of_map _ (nodup_ids_values keyed)) fun node member => ?_
  rcases mem_of_getElem?_put ((mem_values_iff keyed node).mp member) with before | listed
  · simp at before
  · exact listed

end Index

namespace Repository

theorem keyed_ofSnapshot (snapshot : Snapshot) : (ofSnapshot snapshot).nodes.Keyed :=
  Index.keyed_ofInstances snapshot.nodes

theorem nextId_ofSnapshot (snapshot : Snapshot)
    : (ofSnapshot snapshot).nextId = if snapshot.nextId = 0 then 1 else snapshot.nextId :=
  rfl

theorem nextId_ofSnapshot_ne_zero (snapshot : Snapshot) : (ofSnapshot snapshot).nextId ≠ 0 := by
  rw [nextId_ofSnapshot]
  split
  · decide
  · assumption

/-- A repository that indexes its instances under their own identifiers and whose counter has
started is what its snapshot describes.
-/
theorem ofSnapshot_toSnapshot {repository : Repository}
    (keyed : repository.nodes.Keyed) (counter : repository.nextId ≠ 0)
    : ofSnapshot repository.toSnapshot = repository := by
  have registry : IdSet.ofIds repository.partitions.toList = repository.partitions :=
    foldl_insert_toList repository.partitions
  rw [ofSnapshot, toSnapshot, ofParts, if_neg counter, registry, Index.ofInstances_values keyed]

end Repository

end ModelRepository
