import ModelRepository.Proofs.Chunk.Rearrangement
import ModelRepository.Proofs.Index.Merge
import ModelRepository.Proofs.Index.Reachability
import ModelRepository.Proofs.Retrieval.Collection

/-! Indexes that hold the same canonical forms.
Nothing that an update does to an index depends on the order of a list: what is reached, who leaves
an owner and what is stored agree on two indexes as soon as they hold the same canonical forms under
the same identifiers. A retrieval visits in list order, so there it finds the same instances in
another order.
-/

namespace ModelRepository

open Std

-----------------------------------------------------------------------------------------
-- Indexes
-----------------------------------------------------------------------------------------

namespace Index

/-- Two indexes that hold the same canonical forms under the same identifiers. -/
def SameForms (index other : Index) : Prop :=
  ∀ id : String, index[id]?.map Instance.canonical = other[id]?.map Instance.canonical

namespace SameForms

variable {index other : Index} {id owner : String}

theorem symm (same : index.SameForms other) : other.SameForms index :=
  fun id => (same id).symm

theorem twin {node : Instance} (same : index.SameForms other) (found : index[id]? = some node)
    : ∃ twin, other[id]? = some twin ∧ twin.canonical = node.canonical := by
  have form := same id
  rw [found] at form
  exact Option.map_eq_some_iff.mp form.symm

theorem mem (same : index.SameForms other) (indexed : id ∈ index) : id ∈ other := by
  obtain ⟨node, found⟩ := (index.mem_iff_exists id).mp indexed
  obtain ⟨twin, stored, -⟩ := same.twin found
  exact mem_of_getElem? stored

/-- Paths from the roots lead along the same lists, by induction on the path. -/
theorem reaches {roots : IdSet} (same : index.SameForms other) (reached : Reaches index roots id)
    : Reaches other roots id := by
  induction reached with
  | root member indexed => exact .root member (same.mem indexed)
  | @owned owner id before lists indexed ih =>
      obtain ⟨holder, found, lists⟩ := (index.mem_ownedIds_iff owner id).mp lists
      obtain ⟨twin, stored, form⟩ := same.twin found
      have owned := Instance.perm_of_canonical_eq _ Instance.ownedIds_canonical_perm form
      exact ih.listed stored (owned.mem_iff.mpr lists) (same.mem indexed)

/-- Paths of a retrieval lead along the same lists, by induction on the path. -/
theorem path {root : String} {taken : Nat} (same : index.SameForms other)
    (path : Retrieval.Path index root id taken)
    : Retrieval.Path other root id taken := by
  induction path with
  | start indexed => exact .start (same.mem indexed)
  | @annotated owner holder id taken before found lists indexed ih =>
      obtain ⟨twin, stored, form⟩ := same.twin found
      have annotations := Instance.perm_of_canonical_eq _ Instance.annotations_canonical_perm form
      exact ih.annotated stored (annotations.mem_iff.mpr lists) (same.mem indexed)
  | @child owner holder id taken before found lists indexed ih =>
      obtain ⟨twin, stored, form⟩ := same.twin found
      have children := Instance.perm_of_canonical_eq _ Instance.childIds_canonical_perm form
      exact ih.child stored (children.mem_iff.mpr lists) (same.mem indexed)

/-- What an index loses to the sweep of another one with the same forms, it loses to its own. -/
theorem sweep {roots : IdSet} {swept sweptOther : Index} (same : index.SameForms other)
    (sweep : swept.IsSweepOf index roots) (sweepOther : sweptOther.IsSweepOf other roots)
    : swept.SameForms sweptOther := by
  intro id
  by_cases reached : Reaches index roots id
  · rw [sweep.getElem?_eq reached, sweepOther.getElem?_eq (same.reaches reached), same id]
  · have gone : id ∉ swept := mt sweep.mem_iff.mp reached
    have goneToo : id ∉ sweptOther := mt sweepOther.mem_iff.mp (mt same.symm.reaches reached)
    rw [ExtTreeMap.getElem?_eq_none gone, ExtTreeMap.getElem?_eq_none goneToo]

end SameForms

end Index

-----------------------------------------------------------------------------------------
-- Batches
-----------------------------------------------------------------------------------------

/-- Two lists of instances that hold the same canonical forms, in whatever order. -/
def Batch.SameForms (batch other : List Instance) : Prop :=
  (batch.map Instance.canonical).Perm (other.map Instance.canonical)

namespace Batch.SameForms

variable {batch other : List Instance}

theorem symm (same : SameForms batch other) : SameForms other batch :=
  List.Perm.symm same

theorem twin {node : Instance} (same : SameForms batch other) (member : node ∈ batch)
    : ∃ twin ∈ other, twin.canonical = node.canonical :=
  List.mem_map.mp (same.mem_iff.mp (List.mem_map_of_mem member))

theorem ids (same : SameForms batch other)
    : (batch.map Instance.id).Perm (other.map Instance.id) := by
  have forms := List.Perm.map Instance.id same
  rwa [List.map_map, List.map_map] at forms

theorem leavers (same : SameForms batch other) (index : Index) {owner id : String}
    (leaving : id ∈ index.leavers batch owner)
    : id ∈ index.leavers other owner := by
  obtain ⟨node, submitted, rfl, recorded, moved⟩ :=
    (index.mem_leavers_iff batch owner id).mp leaving
  obtain ⟨twin, submittedToo, form⟩ := same.twin submitted
  have arranged := (twin.canonical_eq_iff node).mp form
  exact (index.mem_leavers_iff other owner node.id).mpr
    ⟨twin, submittedToo, arranged.id, recorded, arranged.parent ▸ moved⟩

/-- Merging the same forms leaves the same forms: those that are submitted, and the stored ones
without the same leavers.
-/
theorem merge (same : SameForms batch other) (unique : (batch.map Instance.id).Nodup)
    (index : Index)
    : (index.merge batch).SameForms (index.merge other) := by
  have uniqueToo := same.ids.nodup_iff.mp unique
  intro id
  by_cases member : id ∈ batch.map Instance.id
  · obtain ⟨node, submitted, rfl⟩ := List.mem_map.mp member
    obtain ⟨twin, submittedToo, form⟩ := same.twin submitted
    have key := ((twin.canonical_eq_iff node).mp form).id
    rw [index.getElem?_merge_of_mem unique submitted, ← key,
      index.getElem?_merge_of_mem uniqueToo submittedToo, Option.map_some, Option.map_some, form]
  · have absent : id ∉ other.map Instance.id := mt same.ids.mem_iff.mpr member
    rw [index.getElem?_merge_of_not_mem member, index.getElem?_merge_of_not_mem absent]
    congr 2
    funext holder
    exact holder.disownAll_congr fun leaver => ⟨same.leavers index, same.symm.leavers index⟩

end Batch.SameForms

-----------------------------------------------------------------------------------------
-- Retrieval
-----------------------------------------------------------------------------------------

namespace Retrieval

variable {index other : Index}

/-- Retrievals from the same forms collect the same forms. Witness: both orders list once what the
same requested identifiers have a path to.
-/
theorem collect_sameForms (same : index.SameForms other) (ids : List String) (depth : Depth)
    : Batch.SameForms (collect index ids depth) (collect other ids depth) := by
  obtain ⟨order, traversal, collected⟩ := collect_isTraversal index ids depth
  obtain ⟨orderToo, traversalToo, collectedToo⟩ := collect_isTraversal other ids depth
  have orders : order.Perm orderToo := by
    refine (List.perm_ext_iff_of_nodup traversal.unique traversalToo.unique).mpr fun id => ?_
    rw [traversal.reached, traversalToo.reached]
    constructor
    · rintro ⟨root, requested, taken, path, permitted⟩
      exact ⟨root, requested, taken, same.path path, permitted⟩
    · rintro ⟨root, requested, taken, path, permitted⟩
      exact ⟨root, requested, taken, same.symm.path path, permitted⟩
  have forms (found : List Instance)
      : (found.map Instance.canonical).map some
        = (found.map some).map (·.map Instance.canonical) := by
    simp
  refine (List.map_perm_map_iff fun _ _ => Option.some.inj).mp ?_
  rw [forms, forms, collected, collectedToo, List.map_map, List.map_map]
  refine .trans (.of_eq (List.map_congr_left fun id _ => same id)) (orders.map _)

/-- Where instances are indexed under their own identifiers, what is collected is found under its
own.
-/
theorem getElem?_id_of_mem_collect (keyed : index.Keyed) {ids : List String} {depth : Depth}
    {node : Instance} (member : node ∈ collect index ids depth)
    : index[node.id]? = some node := by
  obtain ⟨id, found⟩ := getElem?_of_mem_collect member
  rw [keyed id node found]
  exact found

/-- Where instances are indexed under their own identifiers, a collection is known by theirs. -/
theorem ids_collect_eq (keyed : index.Keyed) {ids order : List String} {depth : Depth}
    (collected : (collect index ids depth).map some = order.map fun id => index[id]?)
    : (collect index ids depth).map Instance.id = order := by
  refine List.map_injective_iff.mpr (fun _ _ => Option.some.inj) ?_
  have forms : ((collect index ids depth).map Instance.id).map some
      = ((collect index ids depth).map some).map (·.map Instance.id) := by
    simp
  rw [forms, collected, List.map_map]
  refine List.map_congr_left fun id listed => ?_
  have stored : index[id]? ∈ (collect index ids depth).map some :=
    collected ▸ List.mem_map_of_mem listed
  obtain ⟨node, -, found⟩ := List.mem_map.mp stored
  rw [Function.comp_apply, ← found, Option.map_some, keyed id node found.symm]

/-- Where instances are indexed under their own identifiers, a retrieval repeats none. -/
theorem nodup_ids_collect (keyed : index.Keyed) (ids : List String) (depth : Depth)
    : ((collect index ids depth).map Instance.id).Nodup := by
  obtain ⟨order, traversal, collected⟩ := collect_isTraversal index ids depth
  rw [ids_collect_eq keyed collected]
  exact traversal.unique

end Retrieval

end ModelRepository
