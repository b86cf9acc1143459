import ModelRepository.Proofs.Index.Release

/-! The simultaneous merge of a batch into an index, the reference for updates that work through
the batch in order: every submitted instance stands under its identifier, and every other
instance loses the nodes that leave it.
-/

namespace ModelRepository

open Std

namespace Index

/-- The submitted instances in place of the stored ones; every other stored instance without the
nodes that leave it.
-/
def merge (index : Index) (batch : List Instance) : Index :=
  put (index.map fun owner holder => holder.disownAll (index.leavers batch owner)) batch

theorem getElem?_merge_of_mem (index : Index) {batch : List Instance} {node : Instance}
    (unique : (batch.map Instance.id).Nodup) (member : node ∈ batch)
    : (index.merge batch)[node.id]? = some node :=
  getElem?_put_of_mem _ unique member

theorem getElem?_merge_of_not_mem (index : Index) {batch : List Instance} {id : String}
    (absent : id ∉ batch.map Instance.id)
    : (index.merge batch)[id]? = index[id]?.map (·.disownAll (index.leavers batch id)) := by
  rw [merge, getElem?_put_of_not_mem _ absent, ExtTreeMap.getElem?_map]

/-- `merged` answers for `index` and `batch` at once: every submitted instance stands under its
identifier, and every other stored instance has lost, from all its lists, the submitted nodes that
recorded it as their parent and no longer do.
-/
structure IsMergeOf (merged index : Index) (batch : List Instance) : Prop where
  submitted : ∀ node ∈ batch, merged[node.id]? = some node
  others
    : ∀ id,
        id ∉ batch.map Instance.id
        → merged[id]? = index[id]?.map (·.disownAll (index.leavers batch id))

/-- The merge answers for both at once, when no identifier repeats. -/
theorem merge_isMergeOf (index : Index) {batch : List Instance}
    (unique : (batch.map Instance.id).Nodup)
    : (index.merge batch).IsMergeOf index batch :=
  ⟨fun _ member => index.getElem?_merge_of_mem unique member,
    fun _ absent => index.getElem?_merge_of_not_mem absent⟩

@[simp]
theorem mem_merge_iff (index : Index) (batch : List Instance) (id : String)
    : id ∈ index.merge batch ↔ id ∈ index ∨ id ∈ batch.map Instance.id := by
  rw [merge, mem_put_iff, ExtTreeMap.mem_map]

/-- Every instance of a merge is submitted or what a stored one became. -/
theorem getElem?_merge_cases (index : Index) {batch : List Instance} {id : String}
    {node : Instance} (unique : (batch.map Instance.id).Nodup)
    (found : (index.merge batch)[id]? = some node)
    : (node ∈ batch ∧ node.id = id)
      ∨ (id ∉ batch.map Instance.id
          ∧ ∃ stored, index[id]? = some stored
              ∧ node = stored.disownAll (index.leavers batch id)) := by
  by_cases member : id ∈ batch.map Instance.id
  · obtain ⟨submitted, inBatch, rfl⟩ := List.mem_map.mp member
    rw [index.getElem?_merge_of_mem unique inBatch] at found
    cases found
    exact Or.inl ⟨inBatch, rfl⟩
  · rw [index.getElem?_merge_of_not_mem member] at found
    obtain ⟨stored, before, rfl⟩ := Option.map_eq_some_iff.mp found
    exact Or.inr ⟨member, stored, before, rfl⟩

theorem parentOf?_merge_of_mem (index : Index) {batch : List Instance} {node : Instance}
    (unique : (batch.map Instance.id).Nodup) (member : node ∈ batch)
    : (index.merge batch).parentOf? node.id = node.parent :=
  parentOf?_of_getElem? (index.getElem?_merge_of_mem unique member)

theorem parentOf?_merge_of_not_mem (index : Index) {batch : List Instance} {id : String}
    (absent : id ∉ batch.map Instance.id)
    : (index.merge batch).parentOf? id = index.parentOf? id := by
  unfold parentOf?
  rw [index.getElem?_merge_of_not_mem absent]
  cases index[id]? <;> rfl

/-- A merge records the parents of the batch stored over the index, since striking nodes from
lists keeps what is recorded.
-/
theorem parentOf?_merge (index : Index) {batch : List Instance}
    (unique : (batch.map Instance.id).Nodup) (id : String)
    : (index.merge batch).parentOf? id = (index.put batch).parentOf? id := by
  by_cases member : id ∈ batch.map Instance.id
  · obtain ⟨node, submitted, rfl⟩ := List.mem_map.mp member
    rw [index.parentOf?_merge_of_mem unique submitted]
    exact (parentOf?_of_getElem? (index.getElem?_put_of_mem unique submitted)).symm
  · rw [index.parentOf?_merge_of_not_mem member, parentOf?, parentOf?,
      index.getElem?_put_of_not_mem member]

@[simp]
theorem merge_nil (index : Index) : index.merge [] = index := by
  refine ExtTreeMap.ext_getElem? fun id => ?_
  rw [index.getElem?_merge_of_not_mem (by simp)]
  simp

/-- Merging into an empty index leaves the index of the batch. -/
theorem empty_merge (batch : List Instance) : (∅ : Index).merge batch = ofInstances batch :=
  put_congr batch fun id _ => by simp

/-- The order of a batch without repeated identifiers does not count. Witness: both merges hold
the same submitted instances, and the same nodes leave every other one.
-/
theorem merge_perm (index : Index) {batch other : List Instance} (same : batch.Perm other)
    (unique : (batch.map Instance.id).Nodup)
    : index.merge batch = index.merge other := by
  have otherUnique := (same.map Instance.id).nodup_iff.mp unique
  refine ExtTreeMap.ext_getElem? fun id => ?_
  by_cases member : id ∈ batch.map Instance.id
  · obtain ⟨node, inBatch, rfl⟩ := List.mem_map.mp member
    rw [index.getElem?_merge_of_mem unique inBatch,
      index.getElem?_merge_of_mem otherUnique (same.mem_iff.mp inBatch)]
  · have absent : id ∉ other.map Instance.id := mt (same.map Instance.id).mem_iff.mpr member
    rw [index.getElem?_merge_of_not_mem member, index.getElem?_merge_of_not_mem absent]
    congr 1
    funext holder
    refine holder.disownAll_congr fun leaver => ?_
    simp only [mem_leavers_iff, same.mem_iff]

-----------------------------------------------------------------------------------------
-- Identifiers as keys
-----------------------------------------------------------------------------------------

/-- Every instance is indexed under its own identifier. -/
def Keyed (index : Index) : Prop :=
  ∀ (id : String) (node : Instance), index[id]? = some node → node.id = id

theorem keyed_put {index : Index} (keyed : index.Keyed) (batch : List Instance)
    : (index.put batch).Keyed := by
  unfold put
  induction batch generalizing index with
  | nil => exact keyed
  | cons head tail ih =>
      refine ih fun id node found => ?_
      rw [getElem?_insert] at found
      split at found
      · cases found
        assumption
      · exact keyed id node found

/-- An index of instances by their own identifiers is the index of any list that has exactly these
instances and repeats no identifier.
-/
theorem ofInstances_eq {index : Index} (keyed : index.Keyed) {batch : List Instance}
    (unique : (batch.map Instance.id).Nodup)
    (listed : ∀ node, node ∈ batch ↔ index[node.id]? = some node)
    : ofInstances batch = index := by
  refine ExtTreeMap.ext_getElem? fun id => ?_
  by_cases member : id ∈ batch.map Instance.id
  · obtain ⟨node, submitted, rfl⟩ := List.mem_map.mp member
    exact (getElem?_put_of_mem ∅ unique submitted).trans ((listed node).mp submitted).symm
  · have absent : index[id]? = none := by
      refine Option.eq_none_iff_forall_ne_some.mpr fun node found => member ?_
      have same := keyed id node found
      subst same
      exact List.mem_map_of_mem ((listed node).mpr found)
    rw [ofInstances, getElem?_put_of_not_mem ∅ member, absent, ExtTreeMap.getElem?_empty]

/-- The instances of an index by their own identifiers are those that are found under them. -/
theorem mem_values_iff {index : Index} (keyed : index.Keyed) (node : Instance)
    : node ∈ index.values ↔ index[node.id]? = some node := by
  rw [values_eq_map_toList, List.mem_map]
  constructor
  · rintro ⟨⟨id, stored⟩, member, rfl⟩
    have found := ExtTreeMap.mem_toList_iff_getElem?_eq_some.mp member
    rwa [keyed id stored found]
  · exact fun found =>
      ⟨(node.id, node), ExtTreeMap.mem_toList_iff_getElem?_eq_some.mpr found, rfl⟩

theorem map_id_values {index : Index} (keyed : index.Keyed)
    : index.values.map Instance.id = index.keys := by
  rw [values_eq_map_toList, ← ExtTreeMap.map_fst_toList_eq_keys, List.map_map]
  refine List.map_congr_left fun entry member => ?_
  exact keyed entry.1 entry.2 (ExtTreeMap.mem_toList_iff_getElem?_eq_some.mp member)

/-- No identifier occurs twice, since the identifiers are the keys. -/
theorem nodup_ids_values {index : Index} (keyed : index.Keyed)
    : (index.values.map Instance.id).Nodup :=
  map_id_values keyed ▸ ExtTreeMap.nodup_keys

/-- An index by its instances' own identifiers is the index of its instances. -/
theorem ofInstances_values {index : Index} (keyed : index.Keyed)
    : ofInstances index.values = index :=
  ofInstances_eq keyed (nodup_ids_values keyed) (mem_values_iff keyed)

theorem keyed_merge {index : Index} (keyed : index.Keyed) (batch : List Instance)
    : (index.merge batch).Keyed := by
  refine keyed_put ?_ batch
  intro id node found
  rw [ExtTreeMap.getElem?_map] at found
  obtain ⟨stored, earlier, rfl⟩ := Option.map_eq_some_iff.mp found
  exact keyed id stored earlier

end Index

end ModelRepository
