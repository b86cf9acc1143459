import Mathlib.Data.List.Nodup
import ModelRepository.Proofs.Index.Merge
import ModelRepository.Proofs.Index.Reachability

/-! Lists that agree with the recorded parents.
A batch that agrees with the index it is merged into keeps this up: nodes that move leave their
former owners, so what an owner outside the batch still lists still records it.
-/

namespace ModelRepository

open Std

/-- Whatever is listed records its owner as its parent, and partitions are indexed roots. -/
structure Index.Linked (index : Index) (partitions : IdSet) : Prop where
  owned
    : ∀ (owner : String) (holder : Instance),
        index[owner]? = some holder
        → ∀ id ∈ holder.ownedIds, index.parentOf? id = some owner
  roots : ∀ id ∈ partitions, id ∈ index ∧ index.parentOf? id = none

/-- No instance lists an identifier twice. -/
def Index.Distinct (index : Index) : Prop :=
  ∀ (owner : String) (holder : Instance), index[owner]? = some holder → holder.ownedIds.Nodup

/-- A batch whose instances list only what records them as its parent once the batch is stored,
and are no partitions if they have a parent.
-/
structure Batch.Agrees (index : Index) (partitions : IdSet) (batch : List Instance) : Prop where
  owned
    : ∀ owner ∈ batch, ∀ id ∈ owner.ownedIds, (index.put batch).parentOf? id = some owner.id
  roots : ∀ node ∈ batch, node.parent ≠ none → node.id ∉ partitions

instance (index : Index) (partitions : IdSet) (batch : List Instance)
    : Decidable (Batch.Agrees index partitions batch) :=
  decidable_of_iff
    ((∀ owner ∈ batch, ∀ id ∈ owner.ownedIds, (index.put batch).parentOf? id = some owner.id)
      ∧ ∀ node ∈ batch, node.parent ≠ none → node.id ∉ partitions)
    ⟨fun ⟨owned, roots⟩ => ⟨owned, roots⟩, fun ⟨owned, roots⟩ => ⟨owned, roots⟩⟩

namespace Index

variable {index swept : Index} {partitions : IdSet} {batch : List Instance} {id owner : String}
  {holder node : Instance}

theorem linked_empty : (∅ : Index).Linked ∅ := by
  refine ⟨?_, ?_⟩ <;> simp

-----------------------------------------------------------------------------------------
-- What linked lists imply
-----------------------------------------------------------------------------------------

namespace Linked

theorem parentOf?_eq (linked : index.Linked partitions) (lists : id ∈ index.ownedIds owner)
    : index.parentOf? id = some owner := by
  obtain ⟨holder, found, listed⟩ := (index.mem_ownedIds_iff owner id).mp lists
  exact linked.owned owner holder found id listed

theorem indexed (linked : index.Linked partitions) (found : index[owner]? = some holder)
    (lists : id ∈ holder.ownedIds)
    : id ∈ index := by
  have recorded := linked.owned owner holder found id lists
  obtain ⟨node, stored, -⟩ := (index.parentOf?_eq_some_iff id owner).mp recorded
  exact mem_of_getElem? stored

theorem recorded (linked : index.Linked partitions) (found : index[owner]? = some holder)
    (lists : id ∈ holder.ownedIds) (stored : index[id]? = some node)
    : node.parent = some owner :=
  (parentOf?_of_getElem? stored).symm.trans (linked.owned owner holder found id lists)

/-- Whatever is reached is listed by its recorded parent, which a root does not have and any other
path ends with.
-/
theorem listed (linked : index.Linked partitions) (reached : Reaches index partitions id)
    (recorded : index.parentOf? id = some owner)
    : id ∈ index.ownedIds owner := by
  cases reached with
  | root registered _ =>
      rw [(linked.roots id registered).2] at recorded
      cases recorded
  | owned _ lists _ =>
      cases (linked.parentOf?_eq lists).symm.trans recorded
      exact lists

/-- Whatever is reached without a recorded parent is a partition, since the last owner on any
other path would be its parent.
-/
theorem registered (linked : index.Linked partitions) (reached : Reaches index partitions id)
    (rootless : index.parentOf? id = none)
    : id ∈ partitions := by
  cases reached with
  | root registered _ => exact registered
  | owned _ lists _ => cases (linked.parentOf?_eq lists).symm.trans rootless

end Linked

-----------------------------------------------------------------------------------------
-- The merge of an agreeing batch
-----------------------------------------------------------------------------------------

/-- What is listed after a merge records its owner. Witness: a submitted owner by agreement; any
other owner has kept just those of its nodes that still record it.
-/
theorem Linked.merge_owned (linked : index.Linked partitions)
    (agrees : Batch.Agrees index partitions batch) (unique : (batch.map Instance.id).Nodup)
    (found : (index.merge batch)[owner]? = some holder) (lists : id ∈ holder.ownedIds)
    : (index.merge batch).parentOf? id = some owner := by
  rcases index.getElem?_merge_cases unique found with
    ⟨submitted, rfl⟩ | ⟨-, stored, before, rfl⟩
  · rw [index.parentOf?_merge unique]
    exact agrees.owned holder submitted id lists
  · rw [Instance.disownAll_ownedIds, List.mem_filter, decide_eq_true_eq] at lists
    obtain ⟨listed, kept⟩ := lists
    have recorded := linked.owned owner stored before id listed
    by_cases member : id ∈ batch.map Instance.id
    · obtain ⟨node, submitted, rfl⟩ := List.mem_map.mp member
      rw [index.parentOf?_merge_of_mem unique submitted]
      -- A node that records another parent has left, so it would not be listed any more.
      by_contra moved
      exact kept ((index.mem_leavers_iff batch owner node.id).mpr
        ⟨node, submitted, rfl, recorded, moved⟩)
    · rw [index.parentOf?_merge_of_not_mem member]
      exact recorded

/-- Former partitions and submitted roots are indexed roots after a merge. -/
theorem Linked.merge_roots (linked : index.Linked partitions)
    (agrees : Batch.Agrees index partitions batch) (unique : (batch.map Instance.id).Nodup)
    (registered : id ∈ partitions ∨ ∃ node ∈ batch, node.id = id ∧ node.parent = none)
    : id ∈ index.merge batch ∧ (index.merge batch).parentOf? id = none := by
  by_cases member : id ∈ batch.map Instance.id
  · obtain ⟨node, submitted, rfl⟩ := List.mem_map.mp member
    refine ⟨(index.mem_merge_iff batch node.id).mpr (Or.inr member), ?_⟩
    rw [index.parentOf?_merge_of_mem unique submitted]
    rcases registered with former | ⟨root, again, same, rootless⟩
    · by_contra parented
      exact agrees.roots node submitted parented former
    · rwa [← List.inj_on_of_nodup_map unique again submitted same]
  · have former : id ∈ partitions := registered.resolve_right fun ⟨node, submitted, same, _⟩ =>
      member (same ▸ List.mem_map_of_mem submitted)
    obtain ⟨indexed, rootless⟩ := linked.roots id former
    rw [index.parentOf?_merge_of_not_mem member]
    exact ⟨(index.mem_merge_iff batch id).mpr (Or.inl indexed), rootless⟩

/-- Merging an agreeing batch keeps an index linked, rule by rule. -/
theorem Linked.merge (linked : index.Linked partitions)
    (agrees : Batch.Agrees index partitions batch) (unique : (batch.map Instance.id).Nodup)
    {registered : IdSet}
    (roots
      : ∀ id ∈ registered,
          id ∈ partitions ∨ ∃ node ∈ batch, node.id = id ∧ node.parent = none)
    : (index.merge batch).Linked registered :=
  ⟨fun _ _ found _ lists => linked.merge_owned agrees unique found lists,
    fun id member => linked.merge_roots agrees unique (roots id member)⟩

/-- A merge repeats nothing that neither the index nor the batch does, since striking nodes from a
list keeps it distinct.
-/
theorem Distinct.merge (distinct : index.Distinct) (slots : ∀ node ∈ batch, node.ownedIds.Nodup)
    (unique : (batch.map Instance.id).Nodup)
    : (index.merge batch).Distinct := by
  intro owner holder found
  rcases index.getElem?_merge_cases unique found with
    ⟨submitted, -⟩ | ⟨-, stored, before, rfl⟩
  · exact slots holder submitted
  · rw [Instance.disownAll_ownedIds]
    exact (distinct owner stored before).filter _

-----------------------------------------------------------------------------------------
-- The sweep
-----------------------------------------------------------------------------------------

theorem IsSweepOf.parentOf?_eq (sweep : swept.IsSweepOf index partitions)
    (reached : Reaches index partitions id)
    : swept.parentOf? id = index.parentOf? id := by
  unfold parentOf?
  rw [sweep.getElem?_eq reached]

/-- A sweep keeps an index linked, since it keeps what a kept instance lists. -/
theorem Linked.sweep (linked : index.Linked partitions)
    (sweep : swept.IsSweepOf index partitions)
    : swept.Linked partitions := by
  refine ⟨?_, ?_⟩
  · intro owner holder found id lists
    obtain ⟨before, reached⟩ := (sweep owner holder).mp found
    have still := reached.listed before lists (linked.indexed before lists)
    rw [sweep.parentOf?_eq still]
    exact linked.owned owner holder before id lists
  · intro id registered
    obtain ⟨indexed, rootless⟩ := linked.roots id registered
    have reached : Reaches index partitions id := .root registered indexed
    rw [sweep.parentOf?_eq reached]
    exact ⟨sweep.mem_iff.mpr reached, rootless⟩

theorem Distinct.sweep (distinct : index.Distinct) (sweep : swept.IsSweepOf index partitions)
    : swept.Distinct :=
  fun owner holder found => distinct owner holder ((sweep owner holder).mp found).1

end Index

end ModelRepository
