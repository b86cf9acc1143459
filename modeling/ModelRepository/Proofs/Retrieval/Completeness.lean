import ModelRepository.Inspection
import ModelRepository.Interchange.Document
import ModelRepository.Proofs.Chunk.Archive
import ModelRepository.Proofs.Chunk.Languages
import ModelRepository.Proofs.Repository.Snapshot
import ModelRepository.Proofs.Server.Restoration

/-! Nothing that a write keeps is missing from what is given out.
A retrieval walks with a budget and lists a node when it first comes by, the sweep of a write walks
with a set of visited identifiers and no budget. Without a limit both end at the same identifiers,
in any index: where nodes are shared, where owners form a cycle, and where an owner lists what is
not indexed. Sizes of partitions and exports of repositories rest on this.
-/

namespace ModelRepository

open Std

-----------------------------------------------------------------------------------------
-- Any index
-----------------------------------------------------------------------------------------

theorem IdSet.size_ofIds {ids : List String} (unique : ids.Nodup)
    : (ofIds ids).size = ids.length := by
  rw [← ExtTreeSet.length_toList]
  exact (toList_foldl_insert_perm unique).length_eq

/-- A chunk that declares what its instances use fits in any order. -/
theorem Chunk.fits_ofInstances_of_perm {formatVersion : FormatVersion} {instances others : List Instance}
    (permuted : instances.Perm others) (fits : (ofInstances formatVersion others).Fits)
    : (ofInstances formatVersion instances).Fits := by
  obtain ⟨languages, few, each⟩ := fits
  refine ⟨?_, permuted.length_eq ▸ few, fun node member => each node (permuted.mem_iff.mp member)⟩
  rwa [ofInstances, usedLanguages_perm permuted]

namespace Retrieval

/-- An unlimited traversal is an order of what its roots reach. -/
theorem IsTraversal.ofIds_eq_reachable {index : Index} {ids order : List String}
    (traversal : IsTraversal index ids Depth.unbounded.Permits order)
    : IdSet.ofIds order = reachable index (IdSet.ofIds ids) := by
  refine ExtTreeSet.ext_mem fun id => ?_
  rw [IdSet.mem_ofIds, traversal.mem_iff_reaches, mem_reachable_iff]

/-- An unlimited collection holds one instance for each identifier that its roots reach. -/
theorem length_collect_unbounded (index : Index) (ids : List String)
    : (collect index ids .unbounded).length = (reachable index (IdSet.ofIds ids)).size := by
  obtain ⟨order, traversal, collected⟩ := collect_isTraversal index ids .unbounded
  calc (collect index ids .unbounded).length
      = order.length := by simpa using congrArg List.length collected
    _ = (IdSet.ofIds order).size := (IdSet.size_ofIds traversal.unique).symm
    _ = (reachable index (IdSet.ofIds ids)).size := by rw [traversal.ofIds_eq_reachable]

end Retrieval

namespace Repository

variable {repository : Repository}

/-- The size in the summary of a partition is the number of nodes that it reaches. -/
theorem size_of_mem_summaries {summary : PartitionSummary}
    (listed : summary ∈ Inspection.summaries repository)
    : summary.size = (reachable repository.nodes (IdSet.ofIds [summary.id])).size := by
  obtain ⟨id, -, found⟩ := List.mem_filterMap.mp listed
  obtain ⟨root, -, rfl⟩ := Option.map_eq_some_iff.mp found
  rfl

-----------------------------------------------------------------------------------------
-- Repositories with a history
-----------------------------------------------------------------------------------------

/-- All that a grounded repository gives out at once is each of its instances once. -/
theorem Grounded.retrieveAll_perm (grounded : repository.Grounded)
    : repository.retrieveAll.instances.Perm repository.nodes.values := by
  have keyed := grounded.keyed_nodes
  refine (List.perm_ext_iff_of_nodup ?_ ?_).mpr fun node => ?_
  · exact (Retrieval.nodup_ids_collect keyed repository.partitions.toList .unbounded).of_map _
  · exact (Index.nodup_ids_values keyed).of_map _
  · rw [grounded.mem_retrieveAll_iff, Index.mem_values_iff keyed]

/-- An unlimited retrieval returns one instance for each identifier that the sweep of a write would
keep for the same roots, and the summary of a partition counts just these. After any history from
an empty repository, what is given out at once is every indexed instance exactly once, and so is the
content of its documents and of its archives, which any reader gets back whole.
-/
theorem unlimited_retrieval_finds_what_a_sweep_keeps (repository : Repository)
    (ids : List String) (configuration : Configuration) (calls : List Call)
    : (∃ retrieved order,
        repository.retrieve ids (.ofNat Depth.unboundedNumber) .report = .ok retrieved
        ∧ order.Nodup
        ∧ IdSet.ofIds order = reachable repository.nodes (IdSet.ofIds ids)
        ∧ retrieved.chunk.instances.map some = order.map (fun id => repository.nodes[id]?)
        ∧ (repository.nodes.Keyed → retrieved.chunk.ids = order))
      ∧ (∀ summary ∈ Inspection.summaries repository,
          ∃ retrieved,
            repository.retrieve [summary.id] (.ofNat Depth.unboundedNumber) .report
              = .ok retrieved
            ∧ summary.size = retrieved.chunk.size)
      ∧ let reached := (create configuration).run calls
        let whole := reached.retrieveAll
        whole.instances.Perm reached.nodes.values
        ∧ whole.ids.Perm reached.nodes.keys
        ∧ (Interchange.Document.ofChunk whole).nodes.Perm
            (reached.nodes.values.map Interchange.Node.ofInstance)
        ∧ whole.canonical.instances.Perm (reached.nodes.values.map Instance.canonical)
        ∧ (whole.Fits → Archive.decode (Archive.encode whole) = .ok whole.canonical) := by
  refine ⟨?_, ?_, ?_⟩
  · obtain ⟨retrieved, reported, instances, -⟩ := repository.retrieve_eq ids .unbounded
    obtain ⟨order, traversal, collected⟩ :=
      Retrieval.collect_isTraversal repository.nodes ids .unbounded
    refine ⟨retrieved, order, reported, traversal.unique, traversal.ofIds_eq_reachable, ?_, ?_⟩
    · rw [instances, collected]
    · intro keyed
      rw [Chunk.ids, instances]
      exact Retrieval.ids_collect_eq keyed collected
  · intro summary listed
    obtain ⟨retrieved, reported, instances, -⟩ := repository.retrieve_eq [summary.id] .unbounded
    refine ⟨retrieved, reported, ?_⟩
    rw [size_of_mem_summaries listed, Chunk.size, instances, Retrieval.length_collect_unbounded]
  · have grounded := run_grounded configuration calls
    generalize (create configuration).run calls = reached at grounded
    have whole := grounded.retrieveAll_perm
    refine ⟨whole, ?_, whole.map _, ?_, Archive.decode_encode⟩
    · exact Index.map_id_values grounded.keyed_nodes ▸ whole.map Instance.id
    · exact (sortOn_perm Instance.id _).trans (whole.map Instance.canonical)

-- A node that is listed twice and another one that is missing, and a history with one batch.

/-- All that the tidy repository gives out fits, as it is a list of the tidy instances. -/
theorem tidy_retrieveAll_fits : tidy.retrieveAll.Fits := by
  have grounded := run_grounded { name := "tidy" } [.write (.createPartitions tidyInstances)]
  have filled : (create { name := "tidy" }).run [.write (.createPartitions tidyInstances)] = tidy :=
    after_createPartitions_tidyInstances
  rw [filled] at grounded
  exact Chunk.fits_ofInstances_of_perm grounded.retrieveAll_perm (by decide +kernel)

/-- In the tangled repository a retrieval of one partition with a shared node, of an identifier that
is not indexed, and of that partition once more returns what a sweep keeps, and the one summary
counts what is returned. The tidy repository is archived whole.
-/
theorem tangled_retrieval_is_complete
    : tangled.nodes.Keyed
      ∧ (∃ retrieved,
          tangled.retrieve ["right", "nowhere", "right"] (.ofNat Depth.unboundedNumber) .report
            = .ok retrieved
          ∧ retrieved.chunk.ids.Nodup
          ∧ IdSet.ofIds retrieved.chunk.ids
            = reachable tangled.nodes (IdSet.ofIds ["right", "nowhere", "right"]))
      ∧ (∃ summary ∈ Inspection.summaries tangled,
          ∃ retrieved,
            tangled.retrieve [summary.id] (.ofNat Depth.unboundedNumber) .report = .ok retrieved
            ∧ summary.size = retrieved.chunk.size)
      ∧ tidy.retrieveAll.Fits
      ∧ Archive.decode (Archive.encode tidy.retrieveAll) = .ok tidy.retrieveAll.canonical := by
  have keyed : tangled.nodes.Keyed := Index.keyed_ofInstances _
  obtain ⟨⟨retrieved, order, reported, unique, found, -, listed⟩, summarized, exported⟩ :=
    tangled.unlimited_retrieval_finds_what_a_sweep_keeps ["right", "nowhere", "right"]
      { name := "tidy" } [.write (.createPartitions tidyInstances)]
  have filled : (create { name := "tidy" }).run [.write (.createPartitions tidyInstances)] = tidy :=
    after_createPartitions_tidyInstances
  rw [filled] at exported
  obtain ⟨summary, member⟩ : ∃ summary, summary ∈ Inspection.summaries tangled := by
    refine List.exists_mem_of_ne_nil _ ?_
    decide +kernel
  cases listed keyed
  exact ⟨keyed, ⟨retrieved, reported, unique, found⟩,
    ⟨summary, member, summarized summary member⟩, tidy_retrieveAll_fits,
    exported.2.2.2.2 tidy_retrieveAll_fits⟩

end Repository

end ModelRepository
