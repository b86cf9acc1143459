import ModelRepository.Proofs.Index.Locality
import ModelRepository.Proofs.Repository.Commit

/-! What a write does to a partition that it does not touch.
Releasing moved nodes and sweeping act on the whole index, and another partition may list nodes of
this one, record wrong parents or share what it lists. All the same, nothing that a partition
reaches changes unless it is submitted; it may only come to reach more, where it lists something
that was missing.
-/

namespace ModelRepository

open Std

namespace Repository

variable {before after : Repository} {partitions roots : IdSet} {batch : List Instance}
  {changes : Changes} {id owner partition : String} {node : Instance}

-----------------------------------------------------------------------------------------
-- Commits apart from some roots
-----------------------------------------------------------------------------------------

namespace Commits

/-- What is reached from roots that stay registered keeps its instance, unless the batch submits
something within their reach. Witness: neither the merge nor the sweep reacts there.
-/
theorem getElem?_of_apart (effect : before.Commits partitions batch after changes)
    (among : ∀ root ∈ roots, root ∈ partitions)
    (apart : ∀ node ∈ batch, ¬ Reaches before.nodes roots node.id)
    (reached : Reaches before.nodes roots id)
    : after.nodes[id]? = before.nodes[id]? := by
  have merged := reached.of_stored fun _ => Index.getElem?_merge_of_apart apart
  rw [effect.sweep.getElem?_eq (merged.mono among)]
  exact Index.getElem?_merge_of_apart apart reached

theorem sameBelow_of_apart (effect : before.Commits partitions batch after changes)
    (among : ∀ root ∈ roots, root ∈ partitions)
    (apart : ∀ node ∈ batch, ¬ Reaches before.nodes roots node.id)
    (indexed : ∀ root ∈ roots, root ∈ before.nodes)
    (unlisted : ∀ owner, Reaches before.nodes roots owner →
      ∀ node ∈ batch, node.id ∉ before.nodes.ownedIds owner)
    : before.nodes.SameBelow after.nodes roots :=
  (Index.sameBelow_merge apart indexed unlisted).trans (effect.sweep.sameBelow among)

/-- A submitted node that is listed within reach of the roots is reached from them afterwards, since
the owner that lists it is kept.
-/
theorem reaches_of_listed (effect : before.Commits partitions batch after changes)
    (among : ∀ root ∈ roots, root ∈ partitions)
    (apart : ∀ node ∈ batch, ¬ Reaches before.nodes roots node.id)
    (reached : Reaches before.nodes roots owner) (submitted : node ∈ batch)
    (lists : node.id ∈ before.nodes.ownedIds owner)
    : Reaches after.nodes roots node.id := by
  have merged := reached.of_stored fun _ => Index.getElem?_merge_of_apart apart
  have listed : node.id ∈ (before.nodes.merge batch).ownedIds owner := by
    rw [Index.ownedIds_congr (Index.getElem?_merge_of_apart apart reached)]
    exact lists
  have indexed : node.id ∈ before.nodes.merge batch :=
    (before.nodes.mem_merge_iff batch node.id).mpr (Or.inr (List.mem_map_of_mem submitted))
  exact (effect.sweep.sameBelow among).reaches_iff.mpr (.owned merged listed indexed)

end Commits

-----------------------------------------------------------------------------------------
-- Partitions
-----------------------------------------------------------------------------------------

/-- What a submission does to a partition that it submits nothing of. -/
theorem heldBy_of_submission (effect : before.Commits partitions batch after changes)
    (registered : partition ∈ partitions) (indexed : partition ∈ before.nodes)
    (apart : ∀ node ∈ batch, node.id ∉ before.nodes.heldBy partition)
    : (∀ id ∈ before.nodes.heldBy partition,
        id ∈ after.nodes.heldBy partition ∧ after.nodes[id]? = before.nodes[id]?)
      ∧ (after.nodes.heldBy partition = before.nodes.heldBy partition
        ↔ ∀ owner ∈ before.nodes.heldBy partition,
            ∀ node ∈ batch, node.id ∉ before.nodes.ownedIds owner) := by
  have among : ∀ root ∈ IdSet.ofIds [partition], root ∈ partitions := by
    simpa using registered
  have known : ∀ root ∈ IdSet.ofIds [partition], root ∈ before.nodes := by
    simpa using indexed
  simp only [Index.mem_heldBy_iff] at apart ⊢
  have kept {id : String} (reached : Reaches before.nodes (IdSet.ofIds [partition]) id) :=
    effect.getElem?_of_apart among apart reached
  refine ⟨fun id reached => ⟨reached.of_stored fun _ => kept, kept reached⟩, ?_, ?_⟩
  · intro same owner reached node submitted lists
    have later := effect.reaches_of_listed among apart reached submitted lists
    rw [← Index.mem_heldBy_iff, same, Index.mem_heldBy_iff] at later
    exact apart node submitted later
  · intro unlisted
    exact (effect.sameBelow_of_apart among apart known unlisted).heldBy_eq

/-- A submission that submits nothing within reach of a partition leaves every instance there as it
was, even if it lists some of them, and the partition reaches the same as before exactly if no
instance there lists anything submitted. A deletion of other partitions changes nothing within reach
of the partition at all.
-/
theorem untouched_partition_is_kept (repository : Repository) (partition : String)
    (registered : partition ∈ repository.partitions) (indexed : partition ∈ repository.nodes)
    : (∀ batch after changes,
        repository.store batch = .ok (after, changes)
          ∨ repository.createPartitions batch = .ok (after, changes)
        → (∀ node ∈ batch, node.id ∉ repository.nodes.heldBy partition)
        → (∀ id ∈ repository.nodes.heldBy partition,
            id ∈ after.nodes.heldBy partition ∧ after.nodes[id]? = repository.nodes[id]?)
          ∧ (after.nodes.heldBy partition = repository.nodes.heldBy partition
            ↔ ∀ owner ∈ repository.nodes.heldBy partition,
                ∀ node ∈ batch, node.id ∉ repository.nodes.ownedIds owner))
      ∧ ∀ ids after changes,
          repository.deletePartitions ids = .ok (after, changes)
          → partition ∉ ids
          → after.nodes.heldBy partition = repository.nodes.heldBy partition
            ∧ ∀ id ∈ repository.nodes.heldBy partition,
                after.nodes[id]? = repository.nodes[id]? := by
  refine ⟨?_, ?_⟩
  · intro batch after changes done apart
    rcases done with stored | created
    · have performed : repository.perform (.store batch) = .ok (after, changes) := stored
      obtain ⟨-, effect⟩ := commits_of_perform performed
      exact heldBy_of_submission effect registered indexed apart
    · have performed : repository.perform (.createPartitions batch) = .ok (after, changes) :=
        created
      obtain ⟨-, effect⟩ := commits_of_perform performed
      have still := (Request.mem_partitionsAfter_createPartitions repository.partitions batch
        partition).mpr (Or.inl registered)
      exact heldBy_of_submission effect still indexed apart
  · intro ids after changes deleted spared
    have performed : repository.perform (.deletePartitions ids) = .ok (after, changes) := deleted
    obtain ⟨-, effect⟩ := commits_of_perform performed
    have still : partition ∈ Request.partitionsAfter repository.partitions
        (.deletePartitions ids) := by
      simp [Request.partitionsAfter, registered, spared]
    obtain ⟨kept, same⟩ := heldBy_of_submission effect still indexed (by simp [Request.batch])
    exact ⟨same.mpr (by simp [Request.batch]), fun id held => (kept id held).2⟩

-- Two partitions, one of which takes nodes of the other or fills a gap in it.

/-- Two partitions, the first of which reaches a node that records the other one as its parent. -/
def bordering : Repository :=
  .ofParts { name := "bordering" } (IdSet.ofIds ["field", "yard"])
    (Index.ofInstances [
      .withChildren "field" none ["fence"],
      .withChildren "fence" (some "yard") [],
      .withChildren "yard" none ["shed"],
      .withChildren "shed" (some "yard") []])
    0 1

/-- The other partition drops its node and lists the first partition and what that reaches. -/
def encroaching : List Instance :=
  [ .withChildren "yard" none ["fence", "path"],
    .withChildren "path" (some "yard") ["field"] ]

/-- The first partition keeps all that it reaches, whether the other encroaches or is deleted. -/
theorem bordering_is_kept
    : "field" ∈ bordering.partitions
      ∧ "field" ∈ bordering.nodes
      ∧ bordering.store encroaching = .ok (bordering.commit bordering.partitions {} encroaching)
      ∧ (∀ node ∈ encroaching, node.id ∉ bordering.nodes.heldBy "field")
      ∧ (∀ id ∈ bordering.nodes.heldBy "field",
          (bordering.commit bordering.partitions {} encroaching).1.nodes[id]?
            = bordering.nodes[id]?)
      ∧ ∃ after changes,
          bordering.deletePartitions ["yard"] = .ok (after, changes)
          ∧ after.nodes.heldBy "field" = bordering.nodes.heldBy "field" := by
  have registered : "field" ∈ bordering.partitions := by decide +kernel
  have indexed : "field" ∈ bordering.nodes := by decide +kernel
  have stored : bordering.store encroaching
      = .ok (bordering.commit bordering.partitions {} encroaching) := rfl
  have apart : ∀ node ∈ encroaching, node.id ∉ bordering.nodes.heldBy "field" := by
    have elsewhere : ∀ node ∈ encroaching, node.id ∉ ["field", "fence"] := by decide
    intro node submitted held
    exact elsewhere node submitted
      (Index.mem_of_mem_heldBy ["field", "fence"] (by decide) (by decide +kernel) held)
  obtain ⟨⟨after, changes⟩, deleted⟩
      : ∃ written, bordering.deletePartitions ["yard"] = .ok written := ⟨_, rfl⟩
  obtain ⟨submission, deletion⟩ := untouched_partition_is_kept bordering "field" registered indexed
  obtain ⟨kept, -⟩ := submission encroaching _ _ (Or.inl stored) apart
  exact ⟨registered, indexed, stored, apart, fun id held => (kept id held).2, after, changes,
    deleted, (deletion ["yard"] after changes deleted (by decide)).1⟩

/-- A partition that lists a missing node, and another one. -/
def gapped : Repository :=
  .ofParts { name := "gapped" } (IdSet.ofIds ["field", "yard"])
    (Index.ofInstances [
      .withChildren "field" none ["gate"],
      .withChildren "yard" none []])
    0 1

/-- The other partition brings in the node that is missing. -/
def supplying : List Instance :=
  [ .withChildren "yard" none ["gate"],
    .withChildren "gate" (some "yard") [] ]

/-- A partition that lists a missing node reaches it once another partition brings it in. -/
theorem gapped_reaches_more
    : "field" ∈ gapped.partitions
      ∧ "field" ∈ gapped.nodes
      ∧ gapped.store supplying = .ok (gapped.commit gapped.partitions {} supplying)
      ∧ (∀ node ∈ supplying, node.id ∉ gapped.nodes.heldBy "field")
      ∧ (gapped.commit gapped.partitions {} supplying).1.nodes.heldBy "field"
        ≠ gapped.nodes.heldBy "field" := by
  have registered : "field" ∈ gapped.partitions := by decide +kernel
  have indexed : "field" ∈ gapped.nodes := by decide +kernel
  have apart : ∀ node ∈ supplying, node.id ∉ gapped.nodes.heldBy "field" := by
    have elsewhere : ∀ node ∈ supplying, node.id ∉ ["field"] := by decide
    intro node submitted held
    exact elsewhere node submitted
      (Index.mem_of_mem_heldBy ["field"] (by decide) (by decide +kernel) held)
  refine ⟨registered, indexed, rfl, apart, fun same => ?_⟩
  have effect := gapped.commits_request (.store supplying)
  obtain ⟨-, unchanged⟩ := heldBy_of_submission effect registered indexed apart
  have listed : "gate" ∈ gapped.nodes.ownedIds "field" := by decide +kernel
  exact unchanged.mp same "field" (Index.mem_heldBy_self indexed)
    (.withChildren "gate" (some "yard") []) (by decide) listed

end Repository

end ModelRepository
