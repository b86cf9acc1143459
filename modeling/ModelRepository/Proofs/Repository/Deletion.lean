import ModelRepository.Proofs.Audit.Forest
import ModelRepository.Proofs.Index.Trees
import ModelRepository.Proofs.Repository.Difference
import ModelRepository.Proofs.Repository.Submission

/-! The deletion of partitions from a forest.
A deletion only unregisters partitions and sweeps the whole index. In a forest the sweep takes the
trees of these partitions, entire and nothing else: every node stands in one tree, so what still
holds it is no other partition.
-/

namespace ModelRepository

open Std

namespace Repository

variable {catalog : Catalog} {repository : Repository} {rest : IdSet} {ids : List String}
  {id : String}

/-- When some partitions of an orderly repository are left out, the others do not reach exactly
what those held. Witness: some partition holds each node, and no second one does.
-/
theorem Orderly.unreached_iff (orderly : repository.Orderly)
    (registered : ∀ partition ∈ ids, partition ∈ repository.partitions)
    (remaining
      : ∀ partition, partition ∈ rest ↔ partition ∈ repository.partitions ∧ partition ∉ ids)
    : (id ∈ repository.nodes ∧ ¬ Reaches repository.nodes rest id)
      ↔ ∃ partition ∈ ids, id ∈ repository.nodes.heldBy partition := by
  constructor
  · rintro ⟨indexed, unreached⟩
    obtain ⟨partition, among, held⟩ := (orderly.reached id indexed).exists_heldBy
    refine ⟨partition, ?_, held⟩
    by_contra kept
    have left : partition ∈ rest := (remaining partition).mpr ⟨among, kept⟩
    exact Index.not_mem_heldBy_of_unreached unreached left held
  · rintro ⟨partition, named, held⟩
    refine ⟨((Index.mem_heldBy_iff _ _ _).mp held).indexed, fun reached => ?_⟩
    obtain ⟨other, left, heldToo⟩ := reached.exists_heldBy
    obtain ⟨among, kept⟩ := (remaining other).mp left
    have same := orderly.toCoherent.linked.tree_unique (registered partition named) among held
      heldToo
    exact kept (same ▸ named)

/-- Deleting partitions of a repository in which an audit finds nothing succeeds. It deletes exactly
what the named partitions hold, however often they are named, and unregisters these partitions.
Every other node stays as it is, and no remaining partition held a deleted node before or holds one
now.
-/
theorem deletion_takes_whole_trees (catalog : Catalog) (repository : Repository)
    (ids : List String) (silent : repository.audit catalog = [])
    (registered : ∀ partition ∈ ids, partition ∈ repository.partitions)
    : ∃ after changes,
        repository.deletePartitions ids = .ok (after, changes)
        ∧ (∀ id,
            id ∈ changes.deleted
            ↔ ∃ partition ∈ ids, id ∈ reachable repository.nodes (IdSet.ofIds [partition]))
        ∧ changes.partitionsRemoved = IdSet.ofIds ids
        ∧ (∀ partition,
            partition ∈ after.partitions
            ↔ partition ∈ repository.partitions ∧ partition ∉ ids)
        ∧ (∀ id ∉ changes.deleted, after.nodes[id]? = repository.nodes[id]?)
        ∧ ∀ id ∈ changes.deleted,
            id ∉ after.nodes
            ∧ ∀ partition ∈ after.partitions,
                id ∉ reachable repository.nodes (IdSet.ofIds [partition])
                ∧ id ∉ reachable after.nodes (IdSet.ofIds [partition]) := by
  obtain ⟨⟨after, changes⟩, done⟩ : ∃ written, repository.deletePartitions ids = .ok written :=
    ⟨_, (repository.deletePartitions_eq_ok_iff _ ids _).mpr ⟨registered, rfl⟩⟩
  have performed : repository.perform (.deletePartitions ids) = .ok (after, changes) := done
  obtain ⟨-, effect⟩ := commits_of_perform performed
  obtain ⟨-, removed⟩ := registration_of_perform performed
  obtain ⟨remaining, sweep⟩ := isSweepOf_of_deletePartitions done
  have deleted (id : String) : id ∈ changes.deleted
      ↔ id ∈ repository.nodes ∧ ¬ Reaches repository.nodes after.partitions id := by
    rw [effect.deleted, sweep.mem_iff]
  refine ⟨after, changes, done, ?_, removed, remaining, ?_, ?_⟩
  · intro id
    rw [deleted]
    exact (orderly_of_audit_eq_nil silent).unreached_iff registered remaining
  · intro id kept
    rw [deleted, not_and_not_right] at kept
    by_cases indexed : id ∈ repository.nodes
    · exact sweep.getElem?_eq (kept indexed)
    · have absent : id ∉ after.nodes := fun left => indexed (sweep.mem_iff.mp left).indexed
      rw [ExtTreeMap.getElem?_eq_none absent, ExtTreeMap.getElem?_eq_none indexed]
  · intro id gone
    obtain ⟨-, unreached⟩ := (deleted id).mp gone
    refine ⟨((effect.deleted id).mp gone).2, fun partition left => ⟨?_, ?_⟩⟩
    · exact Index.not_mem_heldBy_of_unreached unreached left
    · exact Index.not_mem_heldBy_of_unreached (mt sweep.reaches_iff.mp unreached) left

/-- One of two trees is deleted with the annotations of its annotations, though its partition is
named twice, and the other tree stays.
-/
theorem grove_loses_one_tree
    : grove.audit .standard = []
      ∧ (∀ partition ∈ ["oak", "oak"], partition ∈ grove.partitions)
      ∧ ∃ after changes,
          grove.deletePartitions ["oak", "oak"] = .ok (after, changes)
          ∧ (∀ id, id ∈ changes.deleted ↔ id ∈ reachable grove.nodes (IdSet.ofIds ["oak"]))
          ∧ "stamp" ∈ changes.deleted
          ∧ changes.partitionsRemoved = IdSet.ofIds ["oak"]
          ∧ after.nodes["ash"]? = some (.withChildren "ash" none []) := by
  have registered : ∀ partition ∈ ["oak", "oak"], partition ∈ grove.partitions := by
    decide +kernel
  obtain ⟨after, changes, done, deleted, removed, -, kept, -⟩ :=
    deletion_takes_whole_trees .standard grove ["oak", "oak"] audit_grove registered
  have deleted (id : String)
      : id ∈ changes.deleted ↔ id ∈ reachable grove.nodes (IdSet.ofIds ["oak"]) := by
    simpa using deleted id
  have oak : Reaches grove.nodes (IdSet.ofIds ["oak"]) "oak" := .root (by simp) (by decide +kernel)
  have label : Reaches grove.nodes (IdSet.ofIds ["oak"]) "label" :=
    .owned oak (by decide +kernel) (by decide +kernel)
  have stamp : Reaches grove.nodes (IdSet.ofIds ["oak"]) "stamp" :=
    .owned label (by decide +kernel) (by decide +kernel)
  have apart : "ash" ∉ changes.deleted := by
    intro gone
    have linked := (orderly_of_audit_eq_nil audit_grove).toCoherent.linked
    have same := linked.eq_of_mem_heldBy_of_mem (by decide +kernel) ((deleted "ash").mp gone)
    exact absurd same (by decide)
  refine ⟨audit_grove, registered, after, changes, done, deleted, ?_, removed, ?_⟩
  · exact (deleted "stamp").mpr ((mem_reachable_iff _ _ _).mpr stamp)
  · exact (kept "ash" apart).trans (by decide +kernel)

end Repository

end ModelRepository
