import ModelRepository.Proofs.Repository.Ownership
import ModelRepository.Proofs.Repository.Resubmission
import ModelRepository.Proofs.Retrieval.Closure
import ModelRepository.Proofs.Server.Runs

/-! A repository rebuilt from the chunk of all that its partitions reach.
The chunk is one batch for an empty repository. There is nothing there that the batch could lean on,
so it has to bring everything that its instances list, and its roots have to be the very partitions,
or the sweep of the creation would leave less than was read.
-/

namespace ModelRepository

open Std

namespace Repository

variable {repository : Repository}

-----------------------------------------------------------------------------------------
-- The whole of a repository as a batch
-----------------------------------------------------------------------------------------

theorem Grounded.keyed_nodes (grounded : repository.Grounded) : repository.nodes.Keyed :=
  fun id node found => (grounded.keyed id node found).2

/-- All that a grounded repository gives out at once is all that it holds. -/
theorem Grounded.mem_retrieveAll_iff (grounded : repository.Grounded) (node : Instance)
    : node ∈ repository.retrieveAll.instances ↔ repository.nodes[node.id]? = some node := by
  rw [Repository.mem_retrieveAll_iff]
  constructor
  · rintro ⟨id, found, -⟩
    rwa [grounded.keyed_nodes id node found]
  · exact fun found => ⟨node.id, found, grounded.reaches (Index.mem_of_getElem? found)⟩

/-- The whole of a grounded repository makes up its index. -/
theorem Grounded.ofInstances_retrieveAll (grounded : repository.Grounded)
    : Index.ofInstances repository.retrieveAll.instances = repository.nodes :=
  Index.ofInstances_eq grounded.keyed_nodes
    (Retrieval.nodup_ids_collect grounded.keyed_nodes _ _) grounded.mem_retrieveAll_iff

/-- The whole of a repository needs nothing else to be stored: what its instances list is in it. -/
theorem Grounded.storable_retrieveAll (grounded : repository.Grounded)
    (shaped : ∀ (id : String) (node : Instance),
      repository.nodes[id]? = some node → node.WellShaped)
    (few : repository.nodes.size ≤ maxChunkInstances)
    : Batch.Storable ∅ (fun _ => True) repository.retrieveAll.instances := by
  have size := (Retrieval.length_collect_le repository.nodes repository.partitions.toList
    .unbounded).trans few
  refine ⟨wellFormed_collect grounded.keyed_nodes shaped size, ?_, fun _ _ _ => trivial⟩
  intro node member id lists
  have found := (grounded.mem_retrieveAll_iff node).mp member
  obtain ⟨owned, stored⟩ := (repository.nodes.mem_iff_exists id).mp
    (grounded.resolved node.id node found id lists)
  have same := grounded.keyed_nodes id owned stored
  subst same
  exact Or.inl (List.mem_map_of_mem ((grounded.mem_retrieveAll_iff owned).mpr stored))

/-- The partitions of a repository are its indexed nodes without a recorded parent. -/
def RootsArePartitions (repository : Repository) : Prop :=
  ∀ id, id ∈ repository.partitions ↔ ∃ node, repository.nodes[id]? = some node ∧ node.parent = none

/-- Where nothing but the partitions has no parent, a creation from the whole of a repository
registers its partitions.
-/
theorem Grounded.partitionsAfter_retrieveAll (grounded : repository.Grounded)
    (rooted : repository.RootsArePartitions)
    : Request.partitionsAfter ∅ (.createPartitions repository.retrieveAll.instances)
      = repository.partitions := by
  refine ExtTreeSet.ext_mem fun id => ?_
  rw [Request.mem_partitionsAfter_createPartitions, rooted id]
  simp only [ExtTreeSet.not_mem_empty, false_or, grounded.mem_retrieveAll_iff]
  constructor
  · rintro ⟨node, found, rootless, rfl⟩
    exact ⟨node, found, rootless⟩
  · rintro ⟨node, found, rootless⟩
    have same := grounded.keyed_nodes id node found
    subst same
    exact ⟨node, found, rootless, rfl⟩

/-- An empty repository becomes a copy of the one whose whole it is given. Witness: the merge is the
index that was read, and what its partitions reached there they reach again, so the sweep takes
nothing away.
-/
theorem createPartitions_retrieveAll (grounded : repository.Grounded)
    (shaped : ∀ (id : String) (node : Instance),
      repository.nodes[id]? = some node → node.WellShaped)
    (rooted : repository.RootsArePartitions) (inhabited : 0 < repository.nodes.size)
    (few : repository.nodes.size ≤ maxChunkInstances) (configuration : Configuration)
    : ∃ changes,
        (create configuration).createPartitions repository.retrieveAll.instances
          = .ok ({ repository with configuration, version := 0, nextId := 1 }, changes) := by
  have someRoot : ∃ node ∈ repository.retrieveAll.instances, node.parent = none := by
    rw [← ExtTreeMap.length_keys] at inhabited
    obtain ⟨id, listed⟩ := List.exists_mem_of_length_pos inhabited
    have reached := grounded.reaches (ExtTreeMap.mem_keys.mp listed)
    obtain ⟨root, registered, -⟩ := reached.exists_walk
    obtain ⟨node, found, rootless⟩ := (rooted root).mp registered
    have same := grounded.keyed_nodes root node found
    subst same
    exact ⟨node, (grounded.mem_retrieveAll_iff node).mpr found, rootless⟩
  have storable := grounded.storable_retrieveAll shaped few
  obtain ⟨⟨copy, changes⟩, done⟩ : ∃ written, (create configuration).perform
      (.createPartitions repository.retrieveAll.instances) = .ok written :=
    ⟨_, ((create configuration).createPartitions_eq_ok_iff _ _ _).mpr
      ⟨someRoot, storable, rfl⟩⟩
  obtain ⟨-, effect⟩ := commits_of_perform done
  have registry : Request.partitionsAfter (create configuration).partitions
      (.createPartitions repository.retrieveAll.instances) = repository.partitions :=
    grounded.partitionsAfter_retrieveAll rooted
  have merged : (create configuration).nodes.merge repository.retrieveAll.instances
      = repository.nodes :=
    (Index.empty_merge _).trans grounded.ofInstances_retrieveAll
  have nodes : copy.nodes = repository.nodes := by
    refine effect.sweep.unique fun id node => ?_
    rw [registry, Request.batch, merged]
    exact ⟨fun found => ⟨found, grounded.reaches (Index.mem_of_getElem? found)⟩, And.left⟩
  have same : copy = { repository with configuration, version := 0, nextId := 1 } :=
    effect.after_eq nodes registry rfl rfl rfl
  subst same
  exact ⟨changes, done⟩

end Repository

-----------------------------------------------------------------------------------------
-- Restoring
-----------------------------------------------------------------------------------------

namespace Server

/-- A chunk that is well formed and declares the format of its repository passes the checks of a
request, unless it is empty.
-/
theorem chunkError?_eq_none {server : Server} {name : String} {repository : Repository}
    {chunk : Chunk} (served : server.repositories[name]? = some repository)
    (format : chunk.formatVersion = repository.configuration.formatVersion)
    (inhabited : chunk.instances ≠ []) (wellFormed : Batch.WellFormed chunk.instances)
    : server.chunkError? name chunk = none := by
  have shape := (Batch.shapeError?_eq_none_iff chunk.instances).mpr wellFormed
  simp [chunkError?, repository_of_found served, Chunk.shapeError?, format, inhabited, shape]

/-- A repository that any history from an empty one leads to, and in which nothing but the
partitions has no parent, can be rebuilt from the chunk of all that its partitions reach, if this is
not empty and not too large for a batch: wherever an empty repository of the same format is served,
a creation from that chunk is accepted, and then the same instances are indexed there under the same
identifiers and the same partitions are registered.
-/
theorem restored_from_whole (configuration : Configuration) (calls : List Call)
    (rooted : ((Repository.create configuration).run calls).RootsArePartitions)
    (inhabited : 1 ≤ ((Repository.create configuration).run calls).nodes.size)
    (few : ((Repository.create configuration).run calls).nodes.size ≤ maxChunkInstances)
    (server : Server) (name : String) (vacant : Configuration)
    (served : server.repositories[name]? = some (.create vacant))
    (format
      : vacant.formatVersion
        = ((Repository.create configuration).run calls).configuration.formatVersion)
    : let original := (Repository.create configuration).run calls
      let outcome := server.perform (.bulkCreate name original.retrieveAll)
      outcome.answer = .ok (.token "v-1")
      ∧ ∃ restored,
          outcome.server.repositories[name]? = some restored
          ∧ restored.nodes = original.nodes
          ∧ restored.partitions = original.partitions := by
  have grounded := Repository.run_grounded configuration calls
  have shaped := Repository.run_wellShaped configuration calls
  generalize (Repository.create configuration).run calls = original
    at rooted inhabited few format grounded shaped ⊢
  obtain ⟨changes, created⟩ :=
    Repository.createPartitions_retrieveAll grounded shaped rooted inhabited few vacant
  have performed : (Repository.create vacant).perform
      (.createPartitions original.retrieveAll.instances) = .ok (_, changes) := created
  obtain ⟨⟨⟨node, member, -⟩, storable⟩, -⟩ := Repository.commits_of_perform performed
  have checked := chunkError?_eq_none served format.symm (List.ne_nil_of_mem member)
    storable.toWellFormed
  simp only [perform, bulkCreate, checked, createPartitions, write, repository_of_found served,
    created, loudly]
  refine ⟨?_, _, ExtTreeMap.getElem?_insert_self, rfl, rfl⟩
  have first : "v-" ++ toString (nextCount 0).toNat = "v-1" := by decide +kernel
  exact congrArg (fun text => Except.ok (Answer.token text)) first

/-- The default repository becomes a copy of the tidy one, which a rejected and an accepted call
have filled.
-/
theorem tidy_restored
    : let calls := Repository.settling.take 2
      let original := (Repository.create { name := "tidy" }).run calls
      let outcome := (run {} [.ensureDefault]).perform (.bulkCreate "default" original.retrieveAll)
      outcome.answer = .ok (.token "v-1")
      ∧ ∃ restored,
          outcome.server.repositories["default"]? = some restored
          ∧ restored.nodes = original.nodes
          ∧ restored.partitions = original.partitions := by
  have filled : (Repository.create { name := "tidy" }).run (Repository.settling.take 2)
      = Repository.tidy :=
    Repository.after_createPartitions_tidyInstances
  have grounded := Repository.run_grounded { name := "tidy" } (Repository.settling.take 2)
  have rooted := grounded.mem_partitions_iff (filled ▸ Repository.tidy_orderly.toCoherent.linked)
  have held : Repository.tidy.nodes.size = 5 := by decide +kernel
  have served : (run {} [.ensureDefault]).repositories["default"]?
      = some (.create { name := "default" }) := by
    decide +kernel
  exact restored_from_whole { name := "tidy" } (Repository.settling.take 2) rooted
    (by rw [filled, held]; decide) (by rw [filled, held]; decide)
    _ "default" { name := "default" } served (by rw [filled]; rfl)

end Server

end ModelRepository
