import ModelRepository.Proofs.Audit.Cleanliness
import ModelRepository.Proofs.Repository.Commit

/-! Which submissions keep a clean repository clean.
The batch has to agree with itself and with the stored instances it takes up. Everything else is
seen to by the write: nodes that move leave their former owners, and what nobody lists any more
is swept.
-/

namespace ModelRepository

open Std

/-- A batch whose instances list only what records them as its parent once the batch is stored,
list nothing twice and are no partitions if they have a parent, and with which no annotation comes
to annotate anything but its parent.
-/
structure Batch.Consistent (index : Index) (partitions : IdSet) (batch : List Instance) : Prop where
  owned
    : ∀ owner ∈ batch, ∀ id ∈ owner.ownedIds, (index.put batch).parentOf? id = some owner.id
  slots : ∀ node ∈ batch, node.ownedIds.Nodup
  roots : ∀ node ∈ batch, node.parent ≠ none → node.id ∉ partitions
  hosts : ∀ node ∈ batch, ∀ host ∈ node.annotated, node.parent = some host
  storedHosts
    : ∀ owner ∈ batch, ∀ id ∈ owner.annotations,
        id ∉ batch.map Instance.id
        → ∀ node ∈ index[id]?, ∀ host ∈ node.annotated, node.parent = some host

instance (index : Index) (partitions : IdSet) (batch : List Instance)
    : Decidable (Batch.Consistent index partitions batch) :=
  decidable_of_iff
    ((∀ owner ∈ batch, ∀ id ∈ owner.ownedIds, (index.put batch).parentOf? id = some owner.id)
      ∧ (∀ node ∈ batch, node.ownedIds.Nodup)
      ∧ (∀ node ∈ batch, node.parent ≠ none → node.id ∉ partitions)
      ∧ (∀ node ∈ batch, ∀ host ∈ node.annotated, node.parent = some host)
      ∧ ∀ owner ∈ batch, ∀ id ∈ owner.annotations,
          id ∉ batch.map Instance.id
          → ∀ node ∈ index[id]?, ∀ host ∈ node.annotated, node.parent = some host)
    ⟨fun ⟨owned, slots, roots, hosts, storedHosts⟩ => ⟨owned, slots, roots, hosts, storedHosts⟩,
      fun ⟨owned, slots, roots, hosts, storedHosts⟩ => ⟨owned, slots, roots, hosts, storedHosts⟩⟩

theorem Batch.consistent_nil (index : Index) (partitions : IdSet)
    : Consistent index partitions [] := by
  refine ⟨?_, ?_, ?_, ?_, ?_⟩ <;> exact fun _ member => nomatch member

theorem Batch.Consistent.agrees {index : Index} {partitions : IdSet} {batch : List Instance}
    (consistent : Consistent index partitions batch)
    : Agrees index partitions batch :=
  ⟨consistent.owned, consistent.roots⟩

namespace Index

variable {index : Index} {partitions : IdSet} {batch : List Instance}

-----------------------------------------------------------------------------------------
-- The merge of a consistent batch
-----------------------------------------------------------------------------------------

/-- What is listed as an annotation after a merge annotates its owner, if anything. Witness: an
annotation that is submitted or newly listed annotates its parent, which is its owner; any other
one was listed there before.
-/
theorem Coherent.merge_hosts (coherent : index.Coherent partitions)
    (consistent : Batch.Consistent index partitions batch)
    (unique : (batch.map Instance.id).Nodup) {owner id host : String} {holder node : Instance}
    (found : (index.merge batch)[owner]? = some holder) (lists : id ∈ holder.annotations)
    (stored : (index.merge batch)[id]? = some node) (annotates : node.annotated = some host)
    : host = owner := by
  have recorded : node.parent = some owner := by
    rw [← parentOf?_of_getElem? stored]
    exact coherent.linked.merge_owned consistent.agrees unique found
      (List.mem_append_right _ lists)
  have own (parented : node.parent = some host) : host = owner :=
    Option.some.inj (parented.symm.trans recorded)
  rcases index.getElem?_merge_cases unique stored with
    ⟨submitted, -⟩ | ⟨absent, earlier, before, rfl⟩
  · exact own (consistent.hosts node submitted host annotates)
  · rcases index.getElem?_merge_cases unique found with
      ⟨submitted, rfl⟩ | ⟨-, former, beforehand, rfl⟩
    · exact own
        (consistent.storedHosts holder submitted id lists absent earlier before host annotates)
    · rw [Instance.disownAll_annotations, List.mem_filter] at lists
      exact coherent.hosts owner former beforehand id lists.1 earlier host before annotates

/-- Merging a consistent batch keeps an index coherent, rule by rule. -/
theorem Coherent.merge (coherent : index.Coherent partitions)
    (consistent : Batch.Consistent index partitions batch) (wellFormed : Batch.WellFormed batch)
    {registered : IdSet}
    (roots
      : ∀ id ∈ registered,
          id ∈ partitions ∨ ∃ node ∈ batch, node.id = id ∧ node.parent = none)
    : (index.merge batch).Coherent registered := by
  have unique := wellFormed.unique
  have linked := coherent.linked.merge consistent.agrees unique roots
  have distinct : (index.merge batch).Distinct :=
    Distinct.merge coherent.slots consistent.slots unique
  refine ⟨?_, linked.owned, ?_, distinct, linked.roots⟩
  · intro id indexed
    rcases (index.mem_merge_iff batch id).mp indexed with earlier | member
    · exact coherent.valid id earlier
    · obtain ⟨node, submitted, rfl⟩ := List.mem_map.mp member
      exact (wellFormed.shaped node submitted).id
  · exact fun _ _ found _ lists _ _ stored annotates =>
      coherent.merge_hosts consistent unique found lists stored annotates

-----------------------------------------------------------------------------------------
-- The sweep
-----------------------------------------------------------------------------------------

/-- A sweep keeps an index coherent, since it keeps what a kept instance lists. -/
theorem Coherent.sweep {swept : Index} (coherent : index.Coherent partitions)
    (sweep : swept.IsSweepOf index partitions)
    : swept.Coherent partitions := by
  have linked := coherent.linked.sweep sweep
  have distinct : swept.Distinct := Distinct.sweep coherent.slots sweep
  refine ⟨?_, linked.owned, ?_, distinct, linked.roots⟩
  · exact fun id kept => coherent.valid id (sweep.mem_iff.mp kept).indexed
  · intro owner holder found id lists node host stored annotates
    exact coherent.hosts owner holder ((sweep owner holder).mp found).1 id lists node host
      ((sweep id node).mp stored).1 annotates

end Index

-----------------------------------------------------------------------------------------
-- Writes
-----------------------------------------------------------------------------------------

namespace Repository

/-- An accepted write of a consistent batch keeps a repository orderly. -/
theorem Orderly.perform {before after : Repository} {changes : Changes} (request : Request)
    (orderly : before.Orderly)
    (consistent : Batch.Consistent before.nodes before.partitions request.batch)
    (done : before.perform request = .ok (after, changes))
    : after.Orderly := by
  obtain ⟨accepted, effect⟩ := commits_of_perform done
  have sweep := effect.sweep
  rw [← effect.registry] at sweep
  have roots (id : String) (registered : id ∈ after.partitions)
      : id ∈ before.partitions ∨ ∃ node ∈ request.batch, node.id = id ∧ node.parent = none := by
    rw [effect.registry] at registered
    exact request.mem_partitionsAfter registered
  have merged := orderly.toCoherent.merge consistent accepted.storable.toWellFormed roots
  exact ⟨merged.sweep sweep, fun id kept => sweep.mem_iff_reaches.mp kept⟩

/-- A store or a creation of a consistent batch keeps a clean repository clean, and so does every
deletion of partitions.
-/
theorem consistent_submission_keeps_clean (catalog : Catalog) {before : Repository}
    (clean : before.IsClean catalog)
    : (∀ batch after changes,
        Batch.Consistent before.nodes before.partitions batch
        → before.store batch = .ok (after, changes)
          ∨ before.createPartitions batch = .ok (after, changes)
        → after.IsClean catalog)
      ∧ ∀ ids after changes,
          before.deletePartitions ids = .ok (after, changes) → after.IsClean catalog := by
  have orderly := clean.orderly
  constructor
  · rintro batch after changes consistent (stored | created)
    · exact (orderly.perform (.store batch) consistent stored).isClean catalog
    · exact (orderly.perform (.createPartitions batch) consistent created).isClean catalog
  · intro ids after changes deleted
    have consistent := Batch.consistent_nil before.nodes before.partitions
    exact (orderly.perform (.deletePartitions ids) consistent deleted).isClean catalog

end Repository

-----------------------------------------------------------------------------------------
-- A repository in order
-----------------------------------------------------------------------------------------

/-- The index of a consistent batch that is submitted alone is coherent: it is what the batch
makes of an empty index.
-/
theorem Index.coherent_ofInstances {batch : List Instance} {partitions : IdSet}
    (consistent : Batch.Consistent ∅ ∅ batch) (wellFormed : Batch.WellFormed batch)
    (roots : ∀ id ∈ partitions, ∃ node ∈ batch, node.id = id ∧ node.parent = none)
    : (ofInstances batch).Coherent partitions := by
  have empty : (∅ : Index).Coherent ∅ := by
    refine ⟨?_, ?_, ?_, ?_, ?_⟩ <;> simp
  rw [← empty_merge]
  exact empty.merge consistent wellFormed fun id member => Or.inr (roots id member)

namespace Repository

/-- A partition with two children, of which one has a child and the other an annotation. -/
def tidyInstances : List Instance :=
  [ .withChildren "root" none ["left", "right"],
    .withChildren "left" (some "root") ["moving"],
    (Instance.withChildren "right" (some "root") []).annotateWith "note",
    .withChildren "moving" (some "left") [],
    (Instance.withChildren "note" none []).annotating "right" ]

/-- The repository of these instances. -/
def tidy : Repository :=
  .ofParts { name := "tidy" } (IdSet.ofIds ["root"]) (Index.ofInstances tidyInstances) 0 1

/-- A batch that moves a node from one owner, which is not submitted, to the other, which keeps
its annotation.
-/
def moving : List Instance :=
  [ (Instance.withChildren "right" (some "root") ["moving"]).annotateWith "note",
    .withChildren "moving" (some "right") [] ]

/-- The tidy repository is orderly; its partition reaches every node by the lists. -/
theorem tidy_orderly : tidy.Orderly := by
  have wellFormed : Batch.WellFormed tidyInstances :=
    (Batch.shapeError?_eq_none_iff tidyInstances).mp rfl
  refine ⟨Index.coherent_ofInstances (by decide +kernel) wellFormed ?_, ?_⟩
  · intro id registered
    have same : id = "root" := by simpa [tidy, ofParts] using registered
    subst same
    exact ⟨_, List.mem_cons_self, rfl, rfl⟩
  · have root : Reaches tidy.nodes tidy.partitions "root" :=
      .root (by decide +kernel) (by decide +kernel)
    have left : Reaches tidy.nodes tidy.partitions "left" :=
      .owned root (by decide +kernel) (by decide +kernel)
    have right : Reaches tidy.nodes tidy.partitions "right" :=
      .owned root (by decide +kernel) (by decide +kernel)
    have moving : Reaches tidy.nodes tidy.partitions "moving" :=
      .owned left (by decide +kernel) (by decide +kernel)
    have note : Reaches tidy.nodes tidy.partitions "note" :=
      .owned right (by decide +kernel) (by decide +kernel)
    intro id indexed
    have member : id ∈ tidyInstances.map Instance.id := by
      simpa [tidy, ofParts, Index.ofInstances, Index.mem_put_iff] using indexed
    change id ∈ ["root", "left", "right", "moving", "note"] at member
    simp only [List.mem_cons, List.not_mem_nil, or_false] at member
    rcases member with rfl | rfl | rfl | rfl | rfl <;> assumption

/-- Moving a node, creating a partition beside it and deleting a partition keep the tidy repository
clean.
-/
theorem tidy_stays_clean
    : tidy.IsClean .standard
      ∧ Batch.Consistent tidy.nodes tidy.partitions moving
      ∧ Batch.Consistent tidy.nodes tidy.partitions (.withChildren "annex" none [] :: moving)
      ∧ (∃ after changes,
          tidy.store moving = .ok (after, changes) ∧ after.IsClean .standard)
      ∧ (∃ after changes,
          tidy.createPartitions (.withChildren "annex" none [] :: moving) = .ok (after, changes)
          ∧ after.IsClean .standard)
      ∧ ∃ after changes,
          tidy.deletePartitions ["root"] = .ok (after, changes) ∧ after.IsClean .standard := by
  have clean : tidy.IsClean .standard := tidy_orderly.isClean .standard
  have consistent : Batch.Consistent tidy.nodes tidy.partitions moving := by decide +kernel
  have annexed : Batch.Consistent tidy.nodes tidy.partitions
      (.withChildren "annex" none [] :: moving) := by
    decide +kernel
  obtain ⟨submissions, deletions⟩ := consistent_submission_keeps_clean .standard clean
  obtain ⟨stored, done⟩ : ∃ written, tidy.store moving = .ok written := ⟨_, rfl⟩
  obtain ⟨created, registered⟩
      : ∃ written, tidy.createPartitions (.withChildren "annex" none [] :: moving) = .ok written :=
    ⟨_, rfl⟩
  obtain ⟨deleted, unregistered⟩ : ∃ written, tidy.deletePartitions ["root"] = .ok written :=
    ⟨_, rfl⟩
  exact ⟨clean, consistent, annexed,
    ⟨stored.1, stored.2, done, submissions _ _ _ consistent (Or.inl done)⟩,
    ⟨created.1, created.2, registered, submissions _ _ _ annexed (Or.inr registered)⟩,
    ⟨deleted.1, deleted.2, unregistered, deletions _ _ _ unregistered⟩⟩

end Repository

end ModelRepository
