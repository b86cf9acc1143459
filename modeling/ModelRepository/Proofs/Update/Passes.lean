import ModelRepository.Proofs.Index.Merge
import ModelRepository.Proofs.Index.Reachability

/-! Working through a batch in order is the simultaneous merge.
The lemmas state what each pass of an update and the sweep after them do to the index and to the
record of changes.
-/

namespace ModelRepository

open Std

-----------------------------------------------------------------------------------------
-- The two passes of an update
-----------------------------------------------------------------------------------------

namespace Update

variable (submitted : IdSet) (update : Update) (node : Instance) (batch : List Instance)

/-- A step of the first pass does nothing, because no owner that the node leaves still lists it,
or it strikes the node from the one owner that does. Witness: cases on the recorded parent, the
guard and the lookup of the owner.
-/
theorem detach_cases
    : (update.detach submitted node = update
        ∧ ∀ owner holder,
            owner ∉ submitted
            → update.nodes.leaves owner node = true
            → update.nodes[owner]? = some holder
            → node.id ∉ holder.ownedIds)
      ∨ ∃ owner holder,
          owner ∉ submitted
          ∧ update.nodes.leaves owner node = true
          ∧ update.nodes[owner]? = some holder
          ∧ node.id ∈ holder.ownedIds
          ∧ update.detach submitted node =
              { nodes := update.nodes.insert owner (holder.disownAll [node.id])
                changes := { update.changes with
                  upserted := update.changes.upserted.insert owner } } := by
  unfold detach
  split
  · rename_i rootless
    refine Or.inl ⟨rfl, ?_⟩
    intro owner holder _ leaving
    simp [Index.leaves, rootless] at leaving
  · rename_i owner recorded
    have only {other} (leaving : update.nodes.leaves other node = true)
        : other = owner ∧ node.parent ≠ some owner := by
      simp only [Index.leaves, recorded, Option.some.injEq, Bool.and_eq_true,
        decide_eq_true_eq] at leaving
      exact ⟨leaving.1.symm, leaving.1 ▸ leaving.2⟩
    split
    · rename_i guard
      refine Or.inl ⟨rfl, ?_⟩
      intro other holder outside leaving
      obtain ⟨rfl, moved⟩ := only leaving
      simp [outside, moved] at guard
    · rename_i guard
      simp only [Bool.or_eq_true, ExtTreeSet.contains_iff_mem, decide_eq_true_eq,
        not_or] at guard
      have leaving : update.nodes.leaves owner node = true := by
        simp [Index.leaves, recorded, guard.2]
      split
      · rename_i missing
        refine Or.inl ⟨rfl, ?_⟩
        intro other holder _ leaving found
        rw [(only leaving).1, missing] at found
        cases found
      · rename_i holder stored
        split
        · rename_i lists
          rw [holder.disown_eq_disownAll]
          exact Or.inr ⟨owner, holder, guard.1, leaving, stored,
            (holder.lists_iff node.id).mp lists, rfl⟩
        · rename_i unlisted
          refine Or.inl ⟨rfl, ?_⟩
          intro other found _ leaving again
          rw [(only leaving).1, stored] at again
          cases again
          exact mt (holder.lists_iff node.id).mpr unlisted

/-- One step of the first pass releases one node. Witness: the owners in question are those that
the node leaves, and at most one of them changes.
-/
theorem detach_nodes
    : (update.detach submitted node).nodes = update.nodes.release submitted [node] := by
  refine ExtTreeMap.ext_getElem? fun id => ?_
  by_cases member : id ∈ submitted
  · rw [Index.getElem?_release_of_mem _ member]
    obtain ⟨same, -⟩ | ⟨owner, holder, ownerOutside, -, -, -, changed⟩ :=
      detach_cases submitted update node
    · rw [same]
    · have other : owner ≠ id := fun eq => ownerOutside (eq ▸ member)
      rw [changed, Index.getElem?_insert, if_neg other]
  -- Any other owner changes only if the node leaves it and is still listed there.
  · rw [Index.getElem?_release_of_not_mem _ member, Index.leavers_singleton]
    obtain ⟨same, unlisted⟩ | ⟨owner, holder, -, leaving, stored, -, changed⟩ :=
      detach_cases submitted update node
    · rw [same]
      cases found : update.nodes[id]? with
      | none => rfl
      | some holder =>
          have unchanged : holder.disownAll
              (if update.nodes.leaves id node then [node.id] else []) = holder := by
            rw [holder.disownAll_eq_self_iff]
            split
            · rename_i leaving
              simpa using unlisted id holder member leaving found
            · simp
          rw [Option.map_some, unchanged]
    · rw [changed, Index.getElem?_insert]
      split
      · rename_i same
        subst same
        simp [leaving, stored]
      · rename_i other
        have stays : update.nodes.leaves id node = false :=
          Bool.eq_false_iff.mpr fun again => other (Index.eq_of_leaves leaving again)
        simp [stays]

/-- One step of the first pass marks exactly the owners whose record it changes. -/
theorem mem_upserted_detach (id : String)
    : id ∈ (update.detach submitted node).changes.upserted
      ↔ id ∈ update.changes.upserted
        ∨ (update.detach submitted node).nodes[id]? ≠ update.nodes[id]? := by
  obtain ⟨same, -⟩ | ⟨owner, holder, -, -, stored, lists, changed⟩ :=
    detach_cases submitted update node
  · simp [same]
  · rw [changed]
    simp only [ExtTreeSet.mem_insert, Std.compare_eq_iff_eq, Index.getElem?_insert]
    by_cases same : owner = id
    · subst same
      have struck : holder.disownAll [node.id] ≠ holder := by
        rw [ne_eq, holder.disownAll_eq_self_iff]
        simp [lists]
      simp [stored, struck]
    · simp [same]

/-- The first pass releases the whole batch, by induction on the batch. -/
theorem foldl_detach_nodes
    : (batch.foldl (detach submitted) update).nodes = update.nodes.release submitted batch := by
  induction batch generalizing update with
  | nil => exact (update.nodes.release_nil submitted).symm
  | cons head tail ih =>
      rw [List.foldl_cons, ih, detach_nodes, ← Index.release_append, List.singleton_append]

/-- The first pass marks exactly the owners whose record it changes. Witness: induction on the
batch; what one step strikes no later step brings back.
-/
theorem mem_upserted_foldl_detach (id : String)
    : id ∈ (batch.foldl (detach submitted) update).changes.upserted
      ↔ id ∈ update.changes.upserted
        ∨ (update.nodes.release submitted batch)[id]? ≠ update.nodes[id]? := by
  induction batch generalizing update with
  | nil => simp [Index.release_nil]
  | cons head tail ih =>
      have whole := update.nodes.release_append submitted [head] tail
      have differs := update.nodes.release_append_differs_iff submitted [head] tail id
      rw [List.singleton_append] at whole differs
      rw [List.foldl_cons, ih, mem_upserted_detach, detach_nodes, differs, whole, or_assoc]

/-- The first pass touches no other part of the record, by induction on the batch. -/
theorem foldl_detach_changes
    : (batch.foldl (detach submitted) update).changes =
        { update.changes with
          upserted := (batch.foldl (detach submitted) update).changes.upserted } := by
  induction batch generalizing update with
  | nil => rfl
  | cons head tail ih =>
      rw [List.foldl_cons, ih]
      obtain ⟨same, -⟩ | ⟨_, _, -, -, -, -, changed⟩ := detach_cases submitted update head
      · rw [same]
      · rw [changed]

/-- The second pass stores the whole batch, by induction on the batch. -/
theorem foldl_put_nodes : (batch.foldl put update).nodes = Index.put update.nodes batch := by
  induction batch generalizing update with
  | nil => rfl
  | cons head tail ih =>
      rw [List.foldl_cons, ih]
      rfl

/-- The second pass marks every submitted identifier, and as created those that were not
indexed. Witness: induction on the batch; storing one instance indexes its own identifier only.
-/
theorem foldl_put_changes (id : String)
    : (id ∈ (batch.foldl put update).changes.upserted
        ↔ id ∈ update.changes.upserted ∨ id ∈ batch.map Instance.id)
      ∧ (id ∈ (batch.foldl put update).changes.created
        ↔ id ∈ update.changes.created
          ∨ (id ∈ batch.map Instance.id ∧ id ∉ update.nodes))
      ∧ (batch.foldl put update).changes.deleted = update.changes.deleted
      ∧ (batch.foldl put update).changes.partitionsAdded = update.changes.partitionsAdded
      ∧ (batch.foldl put update).changes.partitionsRemoved
          = update.changes.partitionsRemoved := by
  induction batch generalizing update with
  | nil => simp
  | cons head tail ih =>
      obtain ⟨upserted, created, deleted, added, removed⟩ := ih (update.put head)
      rw [List.foldl_cons]
      refine ⟨?_, ?_, deleted, added, removed⟩
      · rw [upserted]
        simp only [put, ExtTreeSet.mem_insert, Std.compare_eq_iff_eq, List.map_cons, List.mem_cons]
        grind
      · rw [created]
        by_cases indexed : update.nodes.contains head.id = true
        · have member : head.id ∈ update.nodes := ExtTreeMap.contains_iff_mem.mp indexed
          simp only [put, if_pos indexed, ExtTreeMap.mem_insert, Std.compare_eq_iff_eq,
            List.map_cons, List.mem_cons]
          grind
        · have fresh : head.id ∉ update.nodes := mt ExtTreeMap.contains_iff_mem.mpr indexed
          simp only [put, if_neg indexed, ExtTreeSet.mem_insert, ExtTreeMap.mem_insert,
            Std.compare_eq_iff_eq, List.map_cons, List.mem_cons]
          grind

-----------------------------------------------------------------------------------------
-- A whole update
-----------------------------------------------------------------------------------------

/-- Working through a batch in order is the simultaneous merge. Witness: the release of the
first pass agrees with the merge wherever the second pass stores nothing.
-/
theorem apply_nodes : (update.apply batch).nodes = update.nodes.merge batch := by
  unfold apply
  rw [foldl_put_nodes, foldl_detach_nodes, Index.merge]
  refine Index.put_congr batch fun id absent => ?_
  rw [Index.getElem?_release_of_not_mem _ (by simpa using absent), ExtTreeMap.getElem?_map]

/-- An update marks what is submitted and what the merge changes. -/
theorem mem_upserted_apply (id : String)
    : id ∈ (update.apply batch).changes.upserted
      ↔ id ∈ update.changes.upserted
        ∨ id ∈ batch.map Instance.id
        ∨ (update.nodes.merge batch)[id]? ≠ update.nodes[id]? := by
  unfold apply
  simp only [(foldl_put_changes _ batch id).1, mem_upserted_foldl_detach]
  by_cases member : id ∈ batch.map Instance.id
  · simp [member]
  · rw [update.nodes.getElem?_merge_of_not_mem member,
      Index.getElem?_release_of_not_mem _ (by simpa using member)]
    simp [member]

/-- An update records as created what is submitted and was not indexed. -/
theorem mem_created_apply (id : String)
    : id ∈ (update.apply batch).changes.created
      ↔ id ∈ update.changes.created ∨ (id ∈ batch.map Instance.id ∧ id ∉ update.nodes) := by
  unfold apply
  simp only [(foldl_put_changes _ batch id).2.1, foldl_detach_nodes, Index.mem_release_iff]
  rw [foldl_detach_changes]

/-- An update neither deletes anything nor touches the partitions. -/
theorem apply_changes
    : (update.apply batch).changes.deleted = update.changes.deleted
      ∧ (update.apply batch).changes.partitionsAdded = update.changes.partitionsAdded
      ∧ (update.apply batch).changes.partitionsRemoved = update.changes.partitionsRemoved := by
  unfold apply
  obtain ⟨-, -, deleted, added, removed⟩ := foldl_put_changes
    (batch.foldl (detach (IdSet.ofIds (batch.map Instance.id))) update) batch ""
  rw [deleted, added, removed, foldl_detach_changes]
  exact ⟨rfl, rfl, rfl⟩

theorem finish_isSweepOf (partitions : IdSet)
    : (update.finish partitions).nodes.IsSweepOf update.nodes partitions :=
  update.nodes.without_unreachable_isSweepOf partitions

theorem mem_unreachable_iff (index : Index) (partitions : IdSet) (id : String)
    : id ∈ index.unreachable partitions ↔ id ∈ index ∧ ¬ Reaches index partitions id := by
  simp [Index.unreachable]

/-- Finishing an update unmarks what is swept. -/
theorem mem_upserted_finish (partitions : IdSet) (id : String)
    : id ∈ (update.finish partitions).changes.upserted
      ↔ id ∈ update.changes.upserted ∧ (id ∈ update.nodes → Reaches update.nodes partitions id) := by
  simp [finish, mem_unreachable_iff]

/-- Finishing an update reports as deleted what is swept and was not created by it. -/
theorem mem_deleted_finish (partitions : IdSet) (id : String)
    : id ∈ (update.finish partitions).changes.deleted
      ↔ id ∈ update.changes.deleted
        ∨ (id ∈ update.nodes
            ∧ ¬ Reaches update.nodes partitions id
            ∧ id ∉ update.changes.created) := by
  unfold finish
  rw [IdSet.mem_foldl_insert_unless, mem_unreachable_iff, and_assoc]

end Update

end ModelRepository
