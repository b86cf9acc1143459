import ModelRepository.Proofs.Audit.Findings
import ModelRepository.Proofs.Index.Ownership

/-! Repositories in which an audit finds nothing but questions of classifiers.
`Repository.Orderly` says the same rule by rule. It needs no rule for recorded parents and none
against cycles: what is reached from roots, along lists that agree with the recorded parents, is
listed by its parent and on no cycle.
-/

namespace ModelRepository

open Std Relation

/-- The lists agree with the recorded parents, nothing is listed twice, annotations annotate their
owner, partitions are indexed roots and identifiers are valid.
-/
structure Index.Coherent (index : Index) (partitions : IdSet) : Prop where
  valid : ∀ id ∈ index, isValidId id = true
  owned
    : ∀ (owner : String) (holder : Instance),
        index[owner]? = some holder
        → ∀ id ∈ holder.ownedIds, index.parentOf? id = some owner
  hosts
    : ∀ (owner : String) (holder : Instance),
        index[owner]? = some holder
        → ∀ id ∈ holder.annotations, ∀ node host,
            index[id]? = some node → node.annotated = some host → host = owner
  slots
    : ∀ (owner : String) (holder : Instance),
        index[owner]? = some holder → holder.ownedIds.Nodup
  roots : ∀ id ∈ partitions, id ∈ index ∧ index.parentOf? id = none

namespace Repository

/-- Nothing is reported except that partitions have classifiers which cannot be partitions. -/
def IsClean (catalog : Catalog) (repository : Repository) : Prop :=
  ∀ issue ∈ repository.audit catalog, issue.kind = .notPartitionCapable

/-- The index is coherent and holds only what the partitions reach. -/
structure Orderly (repository : Repository) : Prop
    extends repository.nodes.Coherent repository.partitions where
  reached : ∀ id ∈ repository.nodes, Reaches repository.nodes repository.partitions id

end Repository

-----------------------------------------------------------------------------------------
-- Slots
-----------------------------------------------------------------------------------------

namespace Audit

theorem mem_slots_iff (index : Index) (id owner : String)
    : (id, owner) ∈ slots index ↔ id ∈ index.ownedIds owner := by
  simp only [slots, List.mem_flatMap, List.mem_map, Prod.exists, Prod.mk.injEq,
    ExtTreeMap.mem_toList_iff_getElem?_eq_some, Index.mem_ownedIds_iff]
  constructor
  · rintro ⟨key, holder, found, listed, lists, rfl, rfl⟩
    exact ⟨holder, found, lists⟩
  · rintro ⟨holder, found, lists⟩
    exact ⟨owner, holder, found, id, lists, rfl, rfl⟩

/-- No slot occurs twice exactly when no instance lists anything twice, since the slots of two
instances differ in their owner.
-/
theorem nodup_slots_iff (index : Index)
    : (slots index).Nodup
      ↔ ∀ (owner : String) (holder : Instance),
          index[owner]? = some holder → holder.ownedIds.Nodup := by
  have single (owner : String) (ids : List String)
      : (ids.map (·, owner)).Nodup ↔ ids.Nodup :=
    List.nodup_map_iff fun _ _ same => (Prod.mk.inj same).1
  rw [slots, List.nodup_flatMap]
  simp only [single, Prod.forall, ExtTreeMap.mem_toList_iff_getElem?_eq_some]
  refine and_iff_left ?_
  -- A slot that two instances share would have both of them as its owner.
  refine ExtTreeMap.distinct_keys_toList.imp ?_
  rintro ⟨left, _⟩ ⟨right, _⟩ different ⟨id, owner⟩ inLeft inRight
  simp only [List.mem_map, Prod.mk.injEq] at inLeft inRight
  obtain ⟨_, _, _, rfl⟩ := inLeft
  obtain ⟨_, _, _, rfl⟩ := inRight
  simp at different

/-- Nothing is shared exactly when the slots hold different identifiers, by counting. -/
theorem unshared_iff (index : Index)
    : (∀ id, ¬ 1 < (owners index id).length) ↔ ((slots index).map Prod.fst).Nodup := by
  have count (id : String) : ((slots index).map Prod.fst).count id = (owners index id).length := by
    rw [owners, List.length_map, List.count_eq_countP, List.countP_map,
      List.countP_eq_length_filter]
    congr 2
  simp only [List.nodup_iff_count_le_one, count, Nat.not_lt]

theorem mem_owners_iff (index : Index) (id owner : String)
    : owner ∈ owners index id ↔ id ∈ index.ownedIds owner := by
  rw [← mem_slots_iff]
  simp [owners]

end Audit

-----------------------------------------------------------------------------------------
-- What coherence implies
-----------------------------------------------------------------------------------------

namespace Index

variable {index : Index} {partitions : IdSet} {id owner : String}

/-- Two slots with one identifier have one owner, and that one lists nothing twice. -/
theorem Linked.unshared (linked : index.Linked partitions) (distinct : index.Distinct)
    (id : String)
    : ¬ 1 < (Audit.owners index id).length := by
  refine (Audit.unshared_iff index).mpr ?_ id
  refine List.Nodup.map_on ?_ ((Audit.nodup_slots_iff index).mpr distinct)
  rintro ⟨id, owner⟩ held ⟨_, other⟩ heldAgain rfl
  rw [Audit.mem_slots_iff, mem_ownedIds_iff] at held heldAgain
  obtain ⟨holder, found, lists⟩ := held
  obtain ⟨otherHolder, otherFound, listsAgain⟩ := heldAgain
  have recorded := linked.owned owner holder found id lists
  have recordedAgain := linked.owned other otherHolder otherFound id listsAgain
  have same : owner = other := Option.some.inj (recorded.symm.trans recordedAgain)
  rw [same]

/-- What is reached is on no cycle of recorded parents. Witness: induction on the path; a root
records no parent, and a cycle through an owned node would pass its owner.
-/
theorem Linked.acyclic (linked : index.Linked partitions) (reached : Reaches index partitions id)
    : ¬ TransGen index.RecordsParent id id := by
  induction reached with
  | root registered _ =>
      intro cycle
      obtain ⟨parent, step, -⟩ := TransGen.head'_iff.mp cycle
      rw [RecordsParent, (linked.roots _ registered).2] at step
      cases step
  | @owned owner id before lists _ ih =>
      intro cycle
      have recorded : index.RecordsParent id owner := linked.parentOf?_eq lists
      obtain ⟨parent, step, back⟩ := TransGen.head'_iff.mp cycle
      have same : parent = owner := Option.some.inj (step.symm.trans recorded)
      subst same
      exact ih (.tail' back recorded)

theorem Coherent.linked (coherent : index.Coherent partitions) : index.Linked partitions :=
  ⟨coherent.owned, coherent.roots⟩

end Index

-----------------------------------------------------------------------------------------
-- Clean and orderly repositories
-----------------------------------------------------------------------------------------

namespace Repository

variable {catalog : Catalog} {repository : Repository}

/-- An orderly repository is clean, since each breach but one contradicts a rule. -/
theorem Orderly.isClean (orderly : repository.Orderly) (catalog : Catalog)
    : repository.IsClean catalog := by
  have coherent := orderly.toCoherent
  have linked := coherent.linked
  intro issue reported
  cases (Audit.mem_audit_iff catalog repository issue).mp reported with
  | invalidId stored invalid =>
      rw [coherent.valid _ stored] at invalid
      cases invalid
  | danglingChild found lists missing =>
      exact (missing (linked.indexed found (List.mem_append_left _ lists))).elim
  | danglingAnnotationId found lists missing =>
      exact (missing (linked.indexed found (List.mem_append_right _ lists))).elim
  | childParent found lists stored differs =>
      exact (differs (linked.recorded found (List.mem_append_left _ lists) stored)).elim
  | annotationParent found lists stored differs =>
      exact (differs (linked.recorded found (List.mem_append_right _ lists) stored)).elim
  | annotationHost found lists stored annotates differs =>
      exact (differs (coherent.hosts _ _ found _ lists _ _ stored annotates)).elim
  | sharedOwnership shared => exact (linked.unshared coherent.slots _ shared).elim
  | @missingParent id node parent found parented missing =>
      have reached := orderly.reached id (Index.mem_of_getElem? found)
      have lists := linked.listed reached ((Index.parentOf?_of_getElem? found).trans parented)
      obtain ⟨holder, stored, -⟩ := (repository.nodes.mem_ownedIds_iff parent id).mp lists
      exact (missing (Index.mem_of_getElem? stored)).elim
  | @parentDoesNotContain id node parent holder found parented stored unlisted =>
      have reached := orderly.reached id (Index.mem_of_getElem? found)
      have lists := linked.listed reached ((Index.parentOf?_of_getElem? found).trans parented)
      obtain ⟨_, again, lists⟩ := (repository.nodes.mem_ownedIds_iff parent id).mp lists
      cases again.symm.trans stored
      exact (unlisted lists).elim
  | @cyclicHierarchy id cycle =>
      exact (linked.acyclic (orderly.reached id (Index.mem_of_chain cycle)) cycle).elim
  | missingPartitionRoot registered missing =>
      exact (missing (coherent.roots _ registered).1).elim
  | partitionHasParent registered found parented =>
      have rootless := (coherent.roots _ registered).2
      rw [Index.parentOf?_of_getElem? found, parented] at rootless
      cases rootless
  | notPartitionCapable => rfl
  | unreachable stored unreached => exact (unreached (orderly.reached _ stored)).elim

/-- What is listed in a clean repository records its owner as its parent. -/
theorem IsClean.owned (clean : repository.IsClean catalog) {owner id : String}
    {holder : Instance} (found : repository.nodes[owner]? = some holder)
    (lists : id ∈ holder.ownedIds)
    : repository.nodes.parentOf? id = some owner := by
  by_contra unrecorded
  cases stored : repository.nodes[id]? with
  | none =>
      have missing := repository.nodes.not_mem_of_getElem?_eq_none stored
      rcases List.mem_append.mp lists with child | annotation
      · cases clean _ (Audit.Finding.danglingChild found child missing).mem_audit
      · cases clean _ (Audit.Finding.danglingAnnotationId found annotation missing).mem_audit
  | some node =>
      rw [Index.parentOf?_of_getElem? stored] at unrecorded
      rcases List.mem_append.mp lists with child | annotation
      · cases clean _ (Audit.Finding.childParent found child stored unrecorded).mem_audit
      · cases clean _ (Audit.Finding.annotationParent found annotation stored unrecorded).mem_audit

/-- A clean repository is orderly, since a broken rule would be a breach. -/
theorem IsClean.orderly (clean : repository.IsClean catalog) : repository.Orderly := by
  have breach {issue} (finding : Audit.Finding catalog repository issue)
      : issue.kind = .notPartitionCapable :=
    clean issue finding.mem_audit
  refine ⟨⟨?_, ?_, ?_, ?_, ?_⟩, ?_⟩
  · intro id indexed
    by_contra invalid
    cases breach (.invalidId indexed (Bool.eq_false_iff.mpr invalid))
  · exact fun _ _ found _ lists => clean.owned found lists
  · intro owner holder found id lists node host stored annotates
    by_contra differs
    cases breach (.annotationHost found lists stored annotates differs)
  · refine (Audit.nodup_slots_iff repository.nodes).mp (.of_map Prod.fst ?_)
    refine (Audit.unshared_iff repository.nodes).mp fun id shared => ?_
    cases breach (.sharedOwnership shared)
  · intro id registered
    have indexed : id ∈ repository.nodes := by
      by_contra missing
      cases breach (.missingPartitionRoot registered missing)
    refine ⟨indexed, ?_⟩
    obtain ⟨root, found⟩ := (repository.nodes.mem_iff_exists id).mp indexed
    rw [Index.parentOf?_of_getElem? found]
    cases recorded : root.parent with
    | none => rfl
    | some parent => cases breach (.partitionHasParent registered found recorded)
  · intro id indexed
    by_contra unreached
    cases breach (.unreachable indexed unreached)

/-- A repository in which an audit finds nothing is orderly, as it is clean. -/
theorem orderly_of_audit_eq_nil (silent : repository.audit catalog = []) : repository.Orderly := by
  have clean : repository.IsClean catalog := by
    intro issue reported
    simp [silent] at reported
  exact clean.orderly

/-- Clean and orderly repositories are the same, under every catalog. -/
theorem isClean_iff (catalog : Catalog) (repository : Repository)
    : repository.IsClean catalog ↔ repository.Orderly :=
  ⟨IsClean.orderly, fun orderly => orderly.isClean catalog⟩

end Repository

end ModelRepository
