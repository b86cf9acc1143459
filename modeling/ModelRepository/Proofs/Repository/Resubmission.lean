import ModelRepository.Proofs.Index.CanonicalForms
import ModelRepository.Proofs.Index.Locality
import ModelRepository.Proofs.Repository.Difference
import ModelRepository.Proofs.Repository.Ownership

/-! Storing what a repository holds already.
A batch may be stored a second time, or read from a repository and written back. As long as it is
accepted nothing happens: no node leaves its owner, since every record is as it was, and what the
sweep dropped of the batch before is dropped again.
-/

namespace ModelRepository

open Std

/-- Striking identifiers keeps an instance well shaped, since it only shortens lists. -/
theorem Instance.WellShaped.disownAll {node : Instance}
    (shaped : node.WellShaped) (ids : List String)
    : (node.disownAll ids).WellShaped := by
  refine ⟨shaped.id, shaped.parent, shaped.annotated, ?_, shaped.targets, shaped.properties⟩
  intro id lists
  rw [Instance.disownAll_ownedIds] at lists
  exact shaped.owned id (List.mem_filter.mp lists).1

-----------------------------------------------------------------------------------------
-- Batches that bring nothing new
-----------------------------------------------------------------------------------------

/-- A batch that submits the indexed instances as they stand, and besides only what is neither a
partition nor listed by any of them.
-/
structure Batch.Restates (index : Index) (partitions : IdSet) (batch : List Instance) : Prop where
  stored : ∀ node ∈ batch, node.id ∈ index → index[node.id]? = some node
  stray
    : ∀ node ∈ batch,
        node.id ∉ index
        → node.id ∉ partitions ∧ ∀ owner, node.id ∉ index.ownedIds owner

namespace Batch.Restates

variable {index : Index} {partitions : IdSet} {batch : List Instance} {id : String}

/-- No node leaves any owner, since an indexed one records the parent that it is submitted with. -/
theorem leavers_eq_nil (restates : Restates index partitions batch) (owner : String)
    : index.leavers batch owner = [] := by
  refine List.eq_nil_iff_forall_not_mem.mpr fun id left => ?_
  obtain ⟨node, submitted, rfl, recorded, moved⟩ := (index.mem_leavers_iff batch owner id).mp left
  obtain ⟨stored, found, -⟩ := (index.parentOf?_eq_some_iff node.id owner).mp recorded
  have same := restates.stored node submitted (Index.mem_of_getElem? found)
  exact moved ((Index.parentOf?_of_getElem? same).symm.trans recorded)

theorem getElem?_merge (restates : Restates index partitions batch)
    (unique : (batch.map Instance.id).Nodup) (indexed : id ∈ index)
    : (index.merge batch)[id]? = index[id]? := by
  by_cases member : id ∈ batch.map Instance.id
  · obtain ⟨node, submitted, rfl⟩ := List.mem_map.mp member
    rw [index.getElem?_merge_of_mem unique submitted, restates.stored node submitted indexed]
  · rw [index.getElem?_merge_of_not_mem member, restates.leavers_eq_nil]
    cases index[id]? <;> simp

/-- Below the partitions the merge is the index: what it adds is within nobody's reach. -/
theorem sameBelow (restates : Restates index partitions batch)
    (unique : (batch.map Instance.id).Nodup)
    : index.SameBelow (index.merge batch) partitions := by
  have old {id : String} (merged : id ∈ index.merge batch)
      (needed : id ∈ partitions ∨ ∃ owner, id ∈ index.ownedIds owner)
      : id ∈ index := by
    by_contra unknown
    have member := ((index.mem_merge_iff batch id).mp merged).resolve_left unknown
    obtain ⟨node, submitted, rfl⟩ := List.mem_map.mp member
    obtain ⟨unregistered, unlisted⟩ := restates.stray node submitted unknown
    rcases needed with registered | ⟨owner, lists⟩
    · exact unregistered registered
    · exact unlisted owner lists
  refine ⟨fun id reached => restates.getElem?_merge unique reached.indexed, ?_, ?_⟩
  · exact fun root registered merged => old merged (Or.inl registered)
  · exact fun owner _ id lists merged => old merged (Or.inr ⟨owner, lists⟩)

/-- An index that the partitions reach all of is the sweep of the merge. -/
theorem isSweepOf (restates : Restates index partitions batch)
    (unique : (batch.map Instance.id).Nodup)
    (reached : ∀ id ∈ index, Reaches index partitions id)
    : index.IsSweepOf (index.merge batch) partitions :=
  (restates.sameBelow unique).isSweepOf_iff.mpr fun id _ =>
    ⟨fun found => ⟨found, reached id (Index.mem_of_getElem? found)⟩, And.left⟩

end Batch.Restates

/-- The record of a write that marks what it submits as far as that is indexed, and nothing else. -/
structure Changes.MarksOnly (changes : Changes) (index : Index) (batch : List Instance)
    : Prop where
  deleted : changes.deleted = ∅
  partitionsAdded : changes.partitionsAdded = ∅
  partitionsRemoved : changes.partitionsRemoved = ∅
  upserted : ∀ id, id ∈ changes.upserted ↔ id ∈ batch.map Instance.id ∧ id ∈ index

namespace Repository

variable {before after repository : Repository} {partitions : IdSet} {batch : List Instance}
  {changes : Changes} {id : String} {node : Instance}

/-- A storable batch that brings nothing new is accepted and changes nothing. -/
theorem store_of_restates
    (storable : Batch.Storable repository.nodes (· ∈ repository.partitions) batch)
    (restates : Batch.Restates repository.nodes repository.partitions batch)
    (reached : ∀ id ∈ repository.nodes, Reaches repository.nodes repository.partitions id)
    : ∃ changes,
        repository.store batch = .ok (repository, changes)
        ∧ changes.MarksOnly repository.nodes batch := by
  obtain ⟨⟨written, changes⟩, done⟩ : ∃ written, repository.perform (.store batch) = .ok written :=
    ⟨_, (repository.store_eq_ok_iff _ batch _).mpr ⟨storable, rfl⟩⟩
  obtain ⟨-, effect⟩ := commits_of_perform done
  obtain ⟨added, removed⟩ := registration_of_perform done
  have sweep := restates.isSweepOf storable.unique reached
  have nodes : written.nodes = repository.nodes := effect.sweep.unique sweep
  have same : written = repository := effect.after_eq nodes rfl rfl rfl rfl
  subst same
  refine ⟨changes, done, ?_, added, removed, ?_⟩
  · refine ExtTreeSet.ext_mem fun id => ?_
    simp [effect.deleted id]
  · intro id
    rw [effect.upserted id, and_comm]
    refine and_congr_left fun indexed => ⟨?_, Or.inl⟩
    rintro (submitted | differs)
    · exact submitted
    · exact (differs (restates.getElem?_merge storable.unique indexed)).elim

-----------------------------------------------------------------------------------------
-- The same batch once more
-----------------------------------------------------------------------------------------

/-- After a commit its own batch brings nothing new: what the sweep left of it stands as submitted,
and what the sweep dropped was within nobody's reach.
-/
theorem Commits.restates (effect : before.Commits partitions batch after changes)
    (unique : (batch.map Instance.id).Nodup)
    : Batch.Restates after.nodes partitions batch := by
  refine ⟨?_, ?_⟩
  · intro node submitted kept
    rw [effect.sweep.getElem?_eq (effect.sweep.mem_iff.mp kept)]
    exact before.nodes.getElem?_merge_of_mem unique submitted
  · intro node submitted dropped
    have merged : node.id ∈ before.nodes.merge batch :=
      (before.nodes.mem_merge_iff batch node.id).mpr (Or.inr (List.mem_map_of_mem submitted))
    refine ⟨fun registered => dropped (effect.sweep.mem_iff.mpr (.root registered merged)), ?_⟩
    intro owner lists
    obtain ⟨holder, found, listed⟩ := (after.nodes.mem_ownedIds_iff owner node.id).mp lists
    obtain ⟨stored, reached⟩ := (effect.sweep owner holder).mp found
    exact dropped (effect.sweep.mem_iff.mpr (reached.listed stored listed merged))

/-- A batch that was stored is accepted once more exactly if all that it lists without submitting it
has survived the first store. Then nothing changes, and what is marked is what is left of the batch.
-/
theorem store_again_changes_nothing (repository after : Repository) (batch : List Instance)
    (changes : Changes) (stored : repository.store batch = .ok (after, changes))
    : ((∃ written, after.store batch = .ok written)
        ↔ ∀ node ∈ batch,
            ∀ id ∈ node.ownedIds, id ∉ batch.map Instance.id → id ∈ after.nodes)
      ∧ ∀ again repeated,
          after.store batch = .ok (again, repeated)
          → again = after ∧ repeated.MarksOnly after.nodes batch := by
  have performed : repository.perform (.store batch) = .ok (after, changes) := stored
  obtain ⟨storable, effect⟩ := commits_of_perform performed
  have registry : after.partitions = repository.partitions := effect.registry
  have restates : Batch.Restates after.nodes after.partitions batch := by
    rw [registry]
    exact effect.restates storable.unique
  have reached (id : String) (indexed : id ∈ after.nodes)
      : Reaches after.nodes after.partitions id :=
    (mem_reachable_iff _ _ id).mp ((mem_nodes_iff_of_perform performed id).mp indexed)
  have acceptance : Batch.Storable after.nodes (· ∈ after.partitions) batch
      ↔ ∀ node ∈ batch, ∀ id ∈ node.ownedIds, id ∉ batch.map Instance.id → id ∈ after.nodes := by
    constructor
    · intro again node submitted id lists
      exact (again.resolved node submitted id lists).resolve_left
    · intro survived
      refine ⟨storable.toWellFormed, fun node submitted id lists => ?_, ?_⟩
      · exact or_iff_not_imp_left.mpr (survived node submitted id lists)
      · rw [registry]
        exact storable.rooted
  refine ⟨(exists_store_eq_ok_iff after batch).trans acceptance, ?_⟩
  intro again repeated done
  have storableAgain := ((after.store_eq_ok_iff again batch repeated).mp done).1
  obtain ⟨marks, unchanged, marksOnly⟩ := store_of_restates storableAgain restates reached
  cases done.symm.trans unchanged
  exact ⟨rfl, marksOnly⟩

/-- A partition with a child. -/
def lodging : Repository :=
  .ofParts { name := "lodging" } (IdSet.ofIds ["house"])
    (Index.ofInstances [
      .withChildren "house" none ["guest"],
      .withChildren "guest" (some "house") []])
    0 1

/-- The partition drops its child, and the node that takes it is within nobody's reach. -/
def eviction : List Instance :=
  [ .withChildren "house" none [],
    .withChildren "drifter" (some "house") ["guest"] ]

/-- The regrouping of the tangled repository can be stored once more, with no effect. The eviction
cannot, since the child was swept.
-/
theorem regrouping_again_changes_nothing
    : tangled.store regrouping = .ok (tangled.commit tangled.partitions {} regrouping)
      ∧ (∃ repeated,
          (tangled.commit tangled.partitions {} regrouping).1.store regrouping
            = .ok ((tangled.commit tangled.partitions {} regrouping).1, repeated)
          ∧ repeated.MarksOnly (tangled.commit tangled.partitions {} regrouping).1.nodes
              regrouping)
      ∧ lodging.store eviction = .ok (lodging.commit lodging.partitions {} eviction)
      ∧ ¬ ∃ written,
          (lodging.commit lodging.partitions {} eviction).1.store eviction = .ok written := by
  have regrouped : tangled.store regrouping
      = .ok (tangled.commit tangled.partitions {} regrouping) := rfl
  have evicted : lodging.store eviction
      = .ok (lodging.commit lodging.partitions {} eviction) := rfl
  refine ⟨regrouped, ?_, evicted, ?_⟩
  · obtain ⟨accepted, unchanged⟩ := store_again_changes_nothing tangled _ regrouping _ regrouped
    have effect := tangled.commits_request (.store regrouping)
    have root : Reaches (tangled.nodes.merge regrouping) tangled.partitions "root" :=
      .root (by decide +kernel) (by decide +kernel)
    have first : Reaches (tangled.nodes.merge regrouping) tangled.partitions "first" :=
      .owned root (by decide +kernel) (by decide +kernel)
    have fresh : Reaches (tangled.nodes.merge regrouping) tangled.partitions "fresh" :=
      .owned first (by decide +kernel) (by decide +kernel)
    have listed : ∀ node ∈ regrouping, ∀ id ∈ node.ownedIds,
        id ∉ regrouping.map Instance.id → id ∈ ["left", "right", "loop"] := by
      decide
    obtain ⟨⟨again, repeated⟩, done⟩ := accepted.mpr fun node submitted id lists elsewhere => by
      refine effect.sweep.mem_iff.mpr ?_
      have member := listed node submitted id lists elsewhere
      simp only [List.mem_cons, List.not_mem_nil, or_false] at member
      rcases member with rfl | rfl | rfl
      · exact .owned root (by decide +kernel) (by decide +kernel)
      · exact .owned root (by decide +kernel) (by decide +kernel)
      · exact .owned fresh (by decide +kernel) (by decide +kernel)
    obtain ⟨rfl, marksOnly⟩ := unchanged again repeated done
    exact ⟨repeated, done, marksOnly⟩
  · intro again
    have kept := (store_again_changes_nothing lodging _ eviction _ evicted).1.mp again
      (.withChildren "drifter" (some "house") ["guest"]) (by decide) "guest" (by decide)
      (by decide)
    have effect := lodging.commits_request (.store eviction)
    have held : "guest" ∈ (lodging.nodes.merge eviction).heldBy "house" :=
      (Index.mem_heldBy_iff _ _ _).mpr (effect.sweep.mem_iff.mp kept)
    have outside := Index.mem_of_mem_heldBy ["house"] (by decide) (by decide +kernel) held
    simp at outside

-----------------------------------------------------------------------------------------
-- What was read from a repository
-----------------------------------------------------------------------------------------

/-- Every history from an empty repository leads to well-shaped instances, write by write. -/
theorem run_wellShaped (configuration : Configuration) (calls : List Call)
    : ∀ (id : String) (node : Instance),
        ((create configuration).run calls).nodes[id]? = some node → node.WellShaped := by
  refine run_induction (motive := fun repository => ∀ (id : String) (node : Instance),
    repository.nodes[id]? = some node → node.WellShaped) (create configuration) calls ?_ ?_ ?_
  · intro id node found
    simp [create] at found
  · intro before request written changes shaped done id node found
    obtain ⟨accepted, effect⟩ := commits_of_perform done
    have storable := accepted.storable
    obtain ⟨merged, -⟩ := (effect.sweep id node).mp found
    rcases before.nodes.getElem?_merge_cases storable.unique merged with
      ⟨submitted, -⟩ | ⟨-, stored, earlier, rfl⟩
    · exact storable.shaped node submitted
    · exact (shaped id stored earlier).disownAll _
  · exact fun _ _ shaped => shaped

/-- What is retrieved is well formed as far as it is small enough for a batch, since it repeats no
identifier and the stored instances are well shaped.
-/
theorem wellFormed_collect (keyed : repository.nodes.Keyed)
    (shaped : ∀ (id : String) (node : Instance),
      repository.nodes[id]? = some node → node.WellShaped)
    {ids : List String} {depth : Depth}
    (size : (Retrieval.collect repository.nodes ids depth).length ≤ maxChunkInstances)
    : Batch.WellFormed (Retrieval.collect repository.nodes ids depth) :=
  ⟨size,
    fun node member => shaped node.id node (Retrieval.getElem?_id_of_mem_collect keyed member),
    Retrieval.nodup_ids_collect keyed ids depth⟩

/-- What is retrieved brings nothing new. -/
theorem restates_collect (keyed : repository.nodes.Keyed) (ids : List String) (depth : Depth)
    : Batch.Restates repository.nodes repository.partitions
        (Retrieval.collect repository.nodes ids depth) := by
  refine ⟨fun _ member _ => Retrieval.getElem?_id_of_mem_collect keyed member, ?_⟩
  intro node member unknown
  have found := Retrieval.getElem?_id_of_mem_collect keyed member
  exact (unknown (Index.mem_of_getElem? found)).elim

/-- After any history from an empty repository that leaves no nodes without a parent but partitions,
whatever is retrieved, from any identifiers and with any limit, can be stored as it is: if it is not
too large for a batch, it is accepted, nothing changes, and nothing is reported but the retrieved
identifiers as upserted.
-/
theorem store_of_retrieved_changes_nothing (configuration : Configuration) (calls : List Call)
    (rooted
      : ∀ (id : String) (node : Instance),
          ((create configuration).run calls).nodes[id]? = some node
          → node.parent = none
          → id ∈ ((create configuration).run calls).partitions)
    (ids : List String) (limit : Nat)
    : ∃ retrieved,
        ((create configuration).run calls).retrieve ids (.ofNat limit) .report = .ok retrieved
        ∧ (retrieved.chunk.instances.length ≤ maxChunkInstances
          → ∃ changes,
              ((create configuration).run calls).store retrieved.chunk.instances
                = .ok ((create configuration).run calls, changes)
              ∧ changes.MarksOnly ((create configuration).run calls).nodes
                  retrieved.chunk.instances) := by
  have grounded := run_grounded configuration calls
  have shaped := run_wellShaped configuration calls
  generalize (create configuration).run calls = repository at rooted grounded shaped ⊢
  obtain ⟨retrieved, reported, instances, -, -⟩ := repository.retrieve_eq ids (.ofNat limit)
  refine ⟨retrieved, reported, fun size => ?_⟩
  rw [instances] at size ⊢
  have keyed : repository.nodes.Keyed := fun id node found => (grounded.keyed id node found).2
  have found {node : Instance}
      (member : node ∈ Retrieval.collect repository.nodes ids (.ofNat limit))
      : repository.nodes[node.id]? = some node :=
    Retrieval.getElem?_id_of_mem_collect keyed member
  refine store_of_restates ⟨wellFormed_collect keyed shaped size, ?_, ?_⟩
    (restates_collect keyed ids (.ofNat limit)) fun id indexed => grounded.reaches indexed
  · intro node member id lists
    exact Or.inr (grounded.resolved node.id node (found member) id lists)
  · intro node member rootless
    exact rooted node.id node (found member) rootless

/-- What is read from the tidy repository with one step below its partition can be stored back. -/
theorem tidy_takes_back_what_was_read
    : ∃ retrieved changes,
        tidy.retrieve ["root"] (.ofNat 1) .report = .ok retrieved
        ∧ tidy.store retrieved.chunk.instances = .ok (tidy, changes)
        ∧ changes.MarksOnly tidy.nodes retrieved.chunk.instances := by
  have filled : (create { name := "tidy" }).run [.write (.createPartitions tidyInstances)] = tidy :=
    after_createPartitions_tidyInstances
  have rooted (id : String) (node : Instance) (stored : tidy.nodes[id]? = some node)
      (rootless : node.parent = none)
      : id ∈ tidy.partitions :=
    tidy_orderly.toCoherent.linked.registered
      (tidy_orderly.reached id (Index.mem_of_getElem? stored))
      ((Index.parentOf?_of_getElem? stored).trans rootless)
  obtain ⟨retrieved, reported, unchanged⟩ :=
    store_of_retrieved_changes_nothing { name := "tidy" }
      [.write (.createPartitions tidyInstances)] (by rw [filled]; exact rooted) ["root"] 1
  rw [filled] at reported unchanged
  have size : retrieved.chunk.instances.length ≤ maxChunkInstances := by
    obtain ⟨_, known, instances, -⟩ := tidy.retrieve_eq ["root"] (.ofNat 1)
    cases reported.symm.trans known
    rw [instances]
    exact (Retrieval.length_collect_le tidy.nodes ["root"] (.ofNat 1)).trans (by decide +kernel)
  obtain ⟨changes, done, marksOnly⟩ := unchanged size
  exact ⟨retrieved, changes, reported, done, marksOnly⟩

end Repository

end ModelRepository
