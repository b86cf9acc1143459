import ModelRepository.Proofs.Grouping
import ModelRepository.Update

/-! What the operations on identifier sets and indexes do to membership and to lookups. -/

namespace ModelRepository

open Std

theorem Instance.lists_iff (node : Instance) (id : String)
    : node.lists id = true ↔ id ∈ node.ownedIds := by
  simp [lists]

-----------------------------------------------------------------------------------------
-- Identifier sets
-----------------------------------------------------------------------------------------

namespace IdSet

@[simp]
theorem contains_eq_false_iff (set : IdSet) (id : String) : set.contains id = false ↔ id ∉ set := by
  rw [← Bool.not_eq_true, ExtTreeSet.contains_iff_mem]

@[simp]
theorem mem_foldl_insert (ids : List String) (set : IdSet) (id : String)
    : id ∈ ids.foldl ExtTreeSet.insert set ↔ id ∈ set ∨ id ∈ ids :=
  mem_foldl_insert_iff ids set id

@[simp]
theorem mem_ofIds (ids : List String) (id : String) : id ∈ ofIds ids ↔ id ∈ ids := by
  simp [ofIds]

/-- Inserting the members of one set into another joins the two, over the listed members. -/
@[simp]
theorem mem_foldl_insert_set (added set : IdSet) (id : String)
    : id ∈ added.foldl ExtTreeSet.insert set ↔ id ∈ set ∨ id ∈ added := by
  rw [ExtTreeSet.foldl_eq_foldl_toList]
  simp

/-- Inserting the members of one set except for some adds just these, by induction on the listed
members.
-/
theorem mem_foldl_insert_unless (swept skipped set : IdSet) (id : String)
    : id ∈ swept.foldl (fun kept id => if skipped.contains id then kept else kept.insert id) set
      ↔ id ∈ set ∨ (id ∈ swept ∧ id ∉ skipped) := by
  rw [ExtTreeSet.foldl_eq_foldl_toList, ← ExtTreeSet.mem_toList (t := swept)]
  generalize swept.toList = ids
  induction ids generalizing set with
  | nil => simp
  | cons head tail ih =>
      rw [List.foldl_cons, ih]
      split
      · grind
      · simp only [ExtTreeSet.mem_insert, Std.compare_eq_iff_eq, List.mem_cons]
        grind

@[simp]
theorem mem_filter_iff (set : IdSet) (keep : String → Bool) (id : String)
    : id ∈ set.filter keep ↔ id ∈ set ∧ keep id = true := by
  simp [ExtTreeSet.mem_filter]

end IdSet

-----------------------------------------------------------------------------------------
-- Indexes
-----------------------------------------------------------------------------------------

namespace Index

/-- The instances of an index are those of its entries. Witness: both lists are read off the tree
inside, since nothing is known of them from outside.
-/
theorem values_eq_map_toList (index : Index) : index.values = index.toList.map Prod.snd := by
  obtain ⟨⟨entries⟩⟩ := index
  induction entries using Quotient.ind with
  | _ tree =>
      change tree.inner.values = (DTreeMap.Internal.Impl.Const.toList tree.inner).map Prod.snd
      rw [DTreeMap.Internal.Impl.values_eq_map_snd,
        DTreeMap.Internal.Impl.Const.toList_eq_toListModel_map, List.map_map]
      rfl

theorem mem_iff_exists (index : Index) (id : String)
    : id ∈ index ↔ ∃ node, index[id]? = some node := by
  rw [ExtTreeMap.mem_iff_isSome_getElem?, Option.isSome_iff_exists]

theorem mem_of_getElem? {index : Index} {id : String} {node : Instance}
    (found : index[id]? = some node)
    : id ∈ index :=
  (mem_iff_exists index id).mpr ⟨node, found⟩

/-- Different indexed identifiers are no more than there are instances. -/
theorem length_le_size_of_nodup (index : Index) {ids : List String} (unique : ids.Nodup)
    (indexed : ∀ id ∈ ids, id ∈ index)
    : ids.length ≤ index.size := by
  have listed : ids ⊆ index.keys := fun id member => ExtTreeMap.mem_keys.mpr (indexed id member)
  calc ids.length
      ≤ index.keys.length := unique.length_le_of_subset listed
    _ = index.size := ExtTreeMap.length_keys

theorem not_mem_of_getElem?_eq_none (index : Index) {id : String} (absent : index[id]? = none)
    : id ∉ index := by
  simp [mem_iff_exists, absent]

theorem mem_ownedIds_iff (index : Index) (owner id : String)
    : id ∈ index.ownedIds owner
      ↔ ∃ holder, index[owner]? = some holder ∧ id ∈ holder.ownedIds := by
  unfold ownedIds
  cases index[owner]? <;> simp

theorem parentOf?_eq_some_iff (index : Index) (id parent : String)
    : index.parentOf? id = some parent
      ↔ ∃ node, index[id]? = some node ∧ node.parent = some parent := by
  unfold parentOf?
  cases index[id]? <;> simp

/-- No parent is recorded where nothing is indexed and at roots. -/
theorem parentOf?_eq_none_iff (index : Index) (id : String)
    : index.parentOf? id = none
      ↔ id ∉ index ∨ ∃ root, index[id]? = some root ∧ root.parent = none := by
  rw [parentOf?, mem_iff_exists]
  cases index[id]? <;> simp

theorem parentOf?_of_getElem? {index : Index} {id : String} {node : Instance}
    (found : index[id]? = some node)
    : index.parentOf? id = node.parent := by
  simp [parentOf?, found]

theorem getElem?_insert (index : Index) (key id : String) (node : Instance)
    : (index.insert key node)[id]? = if key = id then some node else index[id]? := by
  simp [ExtTreeMap.getElem?_insert]

/-- Identifiers outside a batch keep their answer, by induction on the batch. -/
theorem getElem?_put_of_not_mem (index : Index) {batch : List Instance} {id : String}
    (absent : id ∉ batch.map Instance.id)
    : (index.put batch)[id]? = index[id]? := by
  unfold put
  induction batch generalizing index with
  | nil => rfl
  | cons head tail ih =>
      simp only [List.map_cons, List.mem_cons, not_or] at absent
      rw [List.foldl_cons, ih (index.insert head.id head) absent.2, getElem?_insert,
        if_neg (fun same => absent.1 same.symm)]

/-- A batch without repeated identifiers is found instance by instance. Witness: induction on
the batch, in which nothing behind an instance replaces it.
-/
theorem getElem?_put_of_mem (index : Index) {batch : List Instance} {node : Instance}
    (unique : (batch.map Instance.id).Nodup) (member : node ∈ batch)
    : (index.put batch)[node.id]? = some node := by
  induction batch generalizing index with
  | nil => cases member
  | cons head tail ih =>
      obtain ⟨headAbsent, tailUnique⟩ := List.nodup_cons.mp unique
      rcases List.mem_cons.mp member with same | later
      · subst same
        exact (getElem?_put_of_not_mem (index.insert node.id node) headAbsent).trans
          (by simp)
      · exact ih (index.insert head.id head) tailUnique later

/-- Every instance of an index was there before or is among those put, by induction on these. -/
theorem mem_of_getElem?_put {index : Index} {batch : List Instance} {id : String}
    {node : Instance} (found : (index.put batch)[id]? = some node)
    : index[id]? = some node ∨ node ∈ batch := by
  unfold put at found
  induction batch generalizing index with
  | nil => exact Or.inl found
  | cons head tail ih =>
      rcases ih found with inserted | member
      · rw [getElem?_insert] at inserted
        split at inserted
        · cases inserted
          exact Or.inr List.mem_cons_self
        · exact Or.inl inserted
      · exact Or.inr (List.mem_cons_of_mem head member)

/-- What a batch stores does not depend on what stood there before, by induction on the batch. -/
theorem put_congr {left right : Index} (batch : List Instance)
    (agree : ∀ id, id ∉ batch.map Instance.id → left[id]? = right[id]?)
    : left.put batch = right.put batch := by
  refine ExtTreeMap.ext_getElem? fun id => ?_
  unfold put
  induction batch generalizing left right with
  | nil => exact agree id (by simp)
  | cons head tail ih =>
      refine ih fun other absent => ?_
      rw [getElem?_insert, getElem?_insert]
      split
      · rfl
      · rename_i different
        exact agree other (by simp [absent, Ne.symm different])

/-- Storing a batch adds its identifiers to the indexed ones, by induction on the batch. -/
theorem mem_put_iff (index : Index) (batch : List Instance) (id : String)
    : id ∈ index.put batch ↔ id ∈ index ∨ id ∈ batch.map Instance.id := by
  unfold put
  induction batch generalizing index with
  | nil => simp
  | cons head tail ih =>
      rw [List.foldl_cons, ih, ExtTreeMap.mem_insert, Std.compare_eq_iff_eq, List.map_cons,
        List.mem_cons]
      grind

theorem getElem?_without_eq_some_iff (index : Index) (ids : IdSet) (id : String)
    (node : Instance)
    : (index.without ids)[id]? = some node ↔ index[id]? = some node ∧ id ∉ ids := by
  unfold without
  rw [ExtTreeMap.getElem?_filter', Option.filter_eq_some_iff]
  simp only [Bool.not_eq_true', IdSet.contains_eq_false_iff]

/-- Two indexes with the same successful lookups are equal, by extensionality. -/
theorem ext_of_forall {left right : Index}
    (agree : ∀ (id : String) (node : Instance),
      left[id]? = some node ↔ right[id]? = some node)
    : left = right :=
  ExtTreeMap.ext_getElem? fun id => Option.ext fun node => agree id node

end Index

end ModelRepository
