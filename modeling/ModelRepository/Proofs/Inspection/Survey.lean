import Mathlib.Algebra.Order.Ring.Nat
import Mathlib.Order.Bounds.Basic
import ModelRepository.Proofs.Audit.Forest
import ModelRepository.Proofs.Index.Trees
import ModelRepository.Proofs.Inspection.Layers

/-! What a survey tells about a forest.
The sizes of the partitions are counted one by one and the depth is counted in layers. In a forest
both describe the whole: the trees share no nodes, and since one path leads to each node, the
distance at which it is first met is the length of that path.
-/

namespace ModelRepository

open Std

-----------------------------------------------------------------------------------------
-- Paths through containments
-----------------------------------------------------------------------------------------

/-- The slot is one of a containment, as those come before the annotations. -/
def Slot.IsContainment (index : Index) (slot : Slot) : Prop :=
  ∃ holder, index[slot.owner]? = some holder ∧ slot.position < holder.childIds.length

namespace Index

variable {index : Index} {roots : IdSet} {depth : Nat} {path : List Slot} {id : String}

/-- A way down through containments is a path with no other slots, by induction on the way. -/
theorem ContainedAt.exists_path (contained : index.ContainedAt roots depth id)
    : ∃ path,
        OwnershipPath index roots path id
        ∧ (∀ slot ∈ path, slot.IsContainment index)
        ∧ path.length = depth := by
  induction contained with
  | root registered _ => exact ⟨[], .root registered, by simp, rfl⟩
  | @child _ owner id holder _ found lists _ ih =>
      obtain ⟨path, above, containments, rfl⟩ := ih
      obtain ⟨position, held⟩ := List.getElem?_of_mem lists
      have inRange : position < holder.childIds.length := (List.getElem?_eq_some_iff.mp held).1
      refine ⟨⟨owner, position⟩ :: path, .slot above ?_, ?_, by simp⟩
      · simp only [ownedIds, found, Instance.ownedIds]
        rw [List.getElem?_append_left inRange, held]
      · exact List.forall_mem_cons.mpr ⟨⟨holder, found, inRange⟩, containments⟩

/-- A path through containments alone is a way down to an indexed node, by induction on the path. -/
theorem containedAt_of_path (held : OwnershipPath index roots path id)
    (containments : ∀ slot ∈ path, slot.IsContainment index) (indexed : id ∈ index)
    : index.ContainedAt roots path.length id := by
  induction held with
  | root registered => exact .root registered indexed
  | @slot path owner id position _ held ih =>
      obtain ⟨⟨holder, found, inRange⟩, above⟩ := List.forall_mem_cons.mp containments
      simp only [ownedIds, found, Instance.ownedIds] at held
      rw [List.getElem?_append_left inRange] at held
      exact .child (ih above (mem_of_getElem? found)) found (List.mem_of_getElem? held) indexed

/-- What is contained at some depth is what a path of that length through containments leads to. -/
theorem containedAt_iff
    : index.ContainedAt roots depth id
      ↔ id ∈ index
        ∧ ∃ path,
            OwnershipPath index roots path id
            ∧ (∀ slot ∈ path, slot.IsContainment index)
            ∧ path.length = depth := by
  constructor
  · exact fun contained => ⟨contained.indexed, contained.exists_path⟩
  · rintro ⟨indexed, path, held, containments, rfl⟩
    exact containedAt_of_path held containments indexed

/-- Where no two paths lead to one node, each way down is a shortest one. -/
theorem Linked.firstAt_iff (linked : index.Linked roots) (distinct : index.Distinct)
    : index.FirstAt roots depth id ↔ index.ContainedAt roots depth id := by
  refine ⟨And.left, fun contained => ⟨contained, fun less shorter before => ?_⟩⟩
  obtain ⟨path, held, -, rfl⟩ := contained.exists_path
  obtain ⟨other, heldToo, -, rfl⟩ := before.exists_path
  rw [linked.path_unique distinct held heldToo] at shorter
  exact Nat.lt_irrefl _ shorter

end Index

-----------------------------------------------------------------------------------------
-- Sizes
-----------------------------------------------------------------------------------------

namespace Repository

variable {catalog : Catalog} {repository : Repository}

/-- If all partitions are indexed, there is one summary for each. -/
theorem map_summaries (indexed : ∀ id ∈ repository.partitions, id ∈ repository.nodes)
    : (Inspection.summaries repository).map (fun summary => (summary.id, summary.size))
      = repository.partitions.toList.map fun id => (id, (repository.nodes.heldBy id).size) := by
  rw [Inspection.summaries, List.map_filterMap, List.filterMap_eq_map_iff_forall_eq_some]
  intro id registered
  obtain ⟨root, found⟩ :=
    (repository.nodes.mem_iff_exists id).mp (indexed id (ExtTreeSet.mem_toList.mp registered))
  simp [found, Index.heldBy]

/-- The trees of an orderly repository list its nodes, each once. -/
theorem Orderly.trees_perm (orderly : repository.Orderly)
    : (repository.partitions.toList.flatMap fun id => (repository.nodes.heldBy id).toList).Perm
        repository.nodes.keys := by
  have linked := orderly.toCoherent.linked
  refine (List.perm_ext_iff_of_nodup ?_ ExtTreeMap.nodup_keys).mpr fun id => ?_
  · refine List.nodup_flatMap.mpr ⟨fun id _ => nodup_toList _, ?_⟩
    refine (nodup_toList repository.partitions).imp_of_mem ?_
    intro first second registered registeredToo different id held heldToo
    exact different (linked.tree_unique (ExtTreeSet.mem_toList.mp registered)
      (ExtTreeSet.mem_toList.mp registeredToo) (ExtTreeSet.mem_toList.mp held)
      (ExtTreeSet.mem_toList.mp heldToo))
  · simp only [List.mem_flatMap, ExtTreeSet.mem_toList, ExtTreeMap.mem_keys,
      ← Index.reaches_iff_exists_heldBy]
    exact ⟨Reaches.indexed, orderly.reached id⟩

theorem Orderly.sum_sizes (orderly : repository.Orderly)
    : (repository.partitions.toList.map fun id => (repository.nodes.heldBy id).size).sum
      = repository.nodes.size := by
  have counted := orderly.trees_perm.length_eq
  simpa [List.length_flatMap] using counted

-----------------------------------------------------------------------------------------
-- Depth
-----------------------------------------------------------------------------------------

/-- The depth of a survey is the greatest distance at which anything is contained, in any repository
with an indexed partition.
-/
theorem isGreatest_maxDepth {partition : String} (registered : partition ∈ repository.partitions)
    (indexed : partition ∈ repository.nodes)
    : IsGreatest
        {depth | ∃ id, repository.nodes.FirstAt repository.partitions depth id}
        (Inspection.maxDepth repository) := by
  have counted := Inspection.exists_firstAt_iff repository.nodes repository.partitions
  have first : repository.nodes.FirstAt repository.partitions 0 partition :=
    ⟨.root registered indexed, by simp⟩
  have counts := (counted 0).mp ⟨partition, first⟩
  refine ⟨(counted _).mpr ?_, fun depth occurs => ?_⟩
  · rw [Inspection.maxDepth]
    omega
  · have bound := (counted depth).mp occurs
    rw [Inspection.maxDepth]
    omega

theorem maxDepth_of_no_partitions (empty : repository.partitions = ∅)
    : Inspection.maxDepth repository = 0 := by
  have counted := Inspection.exists_firstAt_iff repository.nodes repository.partitions 0
  have nothing : ¬ ∃ id, repository.nodes.FirstAt repository.partitions 0 id := by
    rintro ⟨id, contained, -⟩
    cases contained with
    | root registered _ => simp [empty] at registered
  have bound := mt counted.mpr nothing
  rw [Inspection.maxDepth]
  omega

/-- In a repository in which an audit finds nothing the summaries list every partition once, and
their sizes add up to the number of nodes. One path of slots leads from the partitions to each node,
and the depth is the length of the longest one through containments alone, or zero without
partitions.
-/
theorem survey_describes_forest (catalog : Catalog) (repository : Repository)
    (silent : repository.audit catalog = [])
    : ((Inspection.summaries repository).map PartitionSummary.id).Nodup
      ∧ (∀ id,
          id ∈ (Inspection.summaries repository).map PartitionSummary.id
          ↔ id ∈ repository.partitions)
      ∧ ((Inspection.summaries repository).map PartitionSummary.size).sum
        = (Inspection.metrics repository).nodeCount
      ∧ (∀ id ∈ repository.nodes,
          ∃! path, OwnershipPath repository.nodes repository.partitions path id)
      ∧ (repository.partitions ≠ ∅
          → IsGreatest
              {depth | ∃ id ∈ repository.nodes, ∃ path,
                OwnershipPath repository.nodes repository.partitions path id
                ∧ (∀ slot ∈ path, slot.IsContainment repository.nodes)
                ∧ path.length = depth}
              (Inspection.metrics repository).maxDepth)
      ∧ (repository.partitions = ∅ → (Inspection.metrics repository).maxDepth = 0) := by
  have orderly := orderly_of_audit_eq_nil silent
  have coherent := orderly.toCoherent
  have linked := coherent.linked
  have listed := map_summaries fun id registered => (coherent.roots id registered).1
  have ids : (Inspection.summaries repository).map PartitionSummary.id
      = repository.partitions.toList := by
    simpa [Function.comp_def] using congrArg (List.map Prod.fst) listed
  have sizes : (Inspection.summaries repository).map PartitionSummary.size
      = repository.partitions.toList.map fun id => (repository.nodes.heldBy id).size := by
    simpa [Function.comp_def] using congrArg (List.map Prod.snd) listed
  refine ⟨?_, ?_, ?_, fun _ => orderly.existsUnique_path, ?_, maxDepth_of_no_partitions⟩
  · rw [ids]
    exact nodup_toList repository.partitions
  · simp [ids]
  · rw [sizes]
    exact orderly.sum_sizes
  · intro nonempty
    obtain ⟨partition, registered⟩ : ∃ partition, partition ∈ repository.partitions := by
      by_contra empty
      exact nonempty (ExtTreeSet.ext_mem fun id =>
        iff_of_false (fun member => empty ⟨id, member⟩) ExtTreeSet.not_mem_empty)
    have greatest := isGreatest_maxDepth registered (coherent.roots partition registered).1
    change IsGreatest _ (Inspection.maxDepth repository)
    simpa only [linked.firstAt_iff coherent.slots, Index.containedAt_iff] using greatest

/-- The two trees of the grove have eight nodes in all. The branch of the one is two edges deep; its
annotations reach further down and do not count.
-/
theorem grove_survey
    : grove.audit .standard = []
      ∧ ((Inspection.summaries grove).map PartitionSummary.size).sum = 8
      ∧ grove.partitions ≠ ∅
      ∧ IsGreatest
          {depth | ∃ id ∈ grove.nodes, ∃ path,
            OwnershipPath grove.nodes grove.partitions path id
            ∧ (∀ slot ∈ path, slot.IsContainment grove.nodes)
            ∧ path.length = depth}
          2 := by
  obtain ⟨-, -, sizes, -, greatest, -⟩ := survey_describes_forest .standard grove audit_grove
  have planted : grove.partitions ≠ ∅ := by decide +kernel
  have nodes : (Inspection.metrics grove).nodeCount = 8 := by decide +kernel
  have depth : (Inspection.metrics grove).maxDepth = 2 := by decide +kernel
  rw [depth] at greatest
  exact ⟨audit_grove, sizes.trans nodes, planted, greatest planted⟩

end Repository

end ModelRepository
