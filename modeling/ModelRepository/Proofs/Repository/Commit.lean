import ModelRepository.Proofs.Batch.Acceptance
import ModelRepository.Proofs.Update.Passes
import ModelRepository.Repository

/-! Writes on one repository as data, and what an accepted write does.
All three kinds of write end in the same commit: the batch is merged, the partitions are replaced
and the merge is swept. `Repository.Commits` states its whole effect, so later results need not
look into a write again.
-/

namespace ModelRepository

open Std

/-- A node with nothing but children in one containment. -/
def Instance.withChildren (id : String) (parent : Option String) (children : List String)
    : Instance :=
  { id
    classifier := .complete "shapes" "1" "Node"
    parent
    containments := [⟨.complete "shapes" "1" "children", children⟩] }

-----------------------------------------------------------------------------------------
-- The effect of a commit
-----------------------------------------------------------------------------------------

/-- `after` and `changes` are what becomes of `before` when `batch` is merged and everything out
of reach of `partitions` is swept.
-/
structure Repository.Commits (before : Repository) (partitions : IdSet) (batch : List Instance)
    (after : Repository) (changes : Changes) : Prop where
  registry : after.partitions = partitions
  configuration : after.configuration = before.configuration
  counters : after.version = before.version ∧ after.nextId = before.nextId
  sweep : after.nodes.IsSweepOf (before.nodes.merge batch) partitions
  upserted
    : ∀ id,
        id ∈ changes.upserted
          ↔ id ∈ after.nodes
            ∧ (id ∈ batch.map Instance.id ∨ (before.nodes.merge batch)[id]? ≠ before.nodes[id]?)
  deleted : ∀ id, id ∈ changes.deleted ↔ id ∈ before.nodes ∧ id ∉ after.nodes

/-- A commit leaves every repository behind that has its index and agrees with it in what a commit
does not touch.
-/
theorem Repository.Commits.after_eq {before after other : Repository} {partitions : IdSet}
    {batch : List Instance} {changes : Changes}
    (effect : before.Commits partitions batch after changes) (nodes : after.nodes = other.nodes)
    (registry : partitions = other.partitions)
    (configuration : before.configuration = other.configuration)
    (version : before.version = other.version) (nextId : before.nextId = other.nextId)
    : after = other := by
  obtain ⟨registered, configured, counters, -⟩ := effect
  cases after
  cases other
  simp_all

/-- A commit leaves one repository behind, which depends on the batch through its merge alone. -/
theorem Repository.Commits.unique {before after other : Repository} {partitions : IdSet}
    {batch reordered : List Instance} {changes otherChanges : Changes}
    (effect : before.Commits partitions batch after changes)
    (again : before.Commits partitions reordered other otherChanges)
    (merged : before.nodes.merge batch = before.nodes.merge reordered)
    : after = other := by
  have sweep := effect.sweep
  rw [merged] at sweep
  exact effect.after_eq (sweep.unique again.sweep) again.registry.symm again.configuration.symm
    again.counters.1.symm again.counters.2.symm

/-- A commit leaves every instance under its own identifier, since merging and sweeping do. -/
theorem Repository.Commits.keyed {before after : Repository} {partitions : IdSet}
    {batch : List Instance} {changes : Changes}
    (effect : before.Commits partitions batch after changes) (keyed : before.nodes.Keyed)
    : after.nodes.Keyed :=
  fun id node found => Index.keyed_merge keyed batch id node ((effect.sweep id node).mp found).1

/-- Only what is submitted or stored can differ from what was stored. -/
theorem Index.mem_merge_of_differs {index : Index} {batch : List Instance} {id : String}
    (differs : id ∈ batch.map Instance.id ∨ (index.merge batch)[id]? ≠ index[id]?)
    : id ∈ index.merge batch := by
  rw [mem_merge_iff]
  by_cases submitted : id ∈ batch.map Instance.id
  · exact Or.inr submitted
  · refine Or.inl ?_
    have changed := differs.resolve_left submitted
    rw [index.getElem?_merge_of_not_mem submitted] at changed
    cases found : index[id]? with
    | none => simp [found] at changed
    | some node => exact mem_of_getElem? found

/-- A commit that starts from a record without marks has the stated effect. Witness: the merge of
the two passes, then the sweep; a swept identifier was either indexed before or created.
-/
theorem Repository.commit_commits (repository : Repository) (partitions added removed : IdSet)
    (batch : List Instance)
    : repository.Commits partitions batch
        (repository.commit partitions
          { partitionsAdded := added, partitionsRemoved := removed } batch).1
        (repository.commit partitions
          { partitionsAdded := added, partitionsRemoved := removed } batch).2 := by
  let start : Update :=
    ⟨repository.nodes, { partitionsAdded := added, partitionsRemoved := removed }⟩
  have merged : (start.apply batch).nodes = repository.nodes.merge batch := start.apply_nodes batch
  have sweep : ((start.apply batch).finish partitions).nodes.IsSweepOf
      (repository.nodes.merge batch) partitions := by
    rw [← merged]
    exact (start.apply batch).finish_isSweepOf partitions
  refine ⟨rfl, rfl, ⟨rfl, rfl⟩, sweep, ?_, ?_⟩
  · intro id
    change id ∈ ((start.apply batch).finish partitions).changes.upserted ↔ _ ∧ _
    rw [Update.mem_upserted_finish, Update.mem_upserted_apply, merged]
    change (id ∈ (∅ : IdSet) ∨ _) ∧ _ ↔ id ∈ ((start.apply batch).finish partitions).nodes ∧ _
    rw [sweep.mem_iff]
    constructor
    · rintro ⟨marked, reached⟩
      have differs := marked.resolve_left ExtTreeSet.not_mem_empty
      exact ⟨reached (Index.mem_merge_of_differs differs), differs⟩
    · rintro ⟨reached, differs⟩
      exact ⟨Or.inr differs, fun _ => reached⟩
  -- What is swept was indexed before or created by the batch, never both.
  · intro id
    change id ∈ ((start.apply batch).finish partitions).changes.deleted
      ↔ _ ∧ id ∉ ((start.apply batch).finish partitions).nodes
    rw [Update.mem_deleted_finish, Update.mem_created_apply, (start.apply_changes batch).1, merged,
      sweep.mem_iff, Index.mem_merge_iff]
    change (id ∈ (∅ : IdSet)
        ∨ _ ∧ _ ∧ ¬ (id ∈ (∅ : IdSet) ∨ id ∈ batch.map Instance.id ∧ id ∉ repository.nodes))
      ↔ id ∈ repository.nodes ∧ _
    simp only [ExtTreeSet.not_mem_empty, false_or]
    grind

-----------------------------------------------------------------------------------------
-- Writes as data
-----------------------------------------------------------------------------------------

/-- A call that writes to the nodes of a repository. -/
inductive Request where
  | store (batch : List Instance)
  | createPartitions (batch : List Instance)
  | deletePartitions (ids : List String)

/-- Carries out a write. -/
def Repository.perform (repository : Repository)
    : Request → Except RepositoryError (Repository × Changes)
  | .store batch => repository.store batch
  | .createPartitions batch => repository.createPartitions batch
  | .deletePartitions ids => repository.deletePartitions ids

/-- The roots of a batch that are not registered yet. -/
def Repository.newPartitions (repository : Repository) (batch : List Instance) : IdSet :=
  IdSet.ofIds
    (((batch.filter Instance.isRoot).map Instance.id).filter
      fun id => !repository.partitions.contains id)

namespace Request

/-- The instances that a write submits. -/
def batch : Request → List Instance
  | store batch => batch
  | createPartitions batch => batch
  | deletePartitions _ => []

/-- The partitions that an accepted write leaves behind. -/
def partitionsAfter (partitions : IdSet) : Request → IdSet
  | store _ => partitions
  | createPartitions batch =>
      ((batch.filter Instance.isRoot).map Instance.id).foldl ExtTreeSet.insert partitions
  | deletePartitions ids => partitions.filter (· ∉ ids)

/-- What an accepted write records about the registration of partitions. -/
def registration (repository : Repository) : Request → Changes
  | store _ => {}
  | createPartitions batch => { partitionsAdded := repository.newPartitions batch }
  | deletePartitions ids => { partitionsRemoved := IdSet.ofIds ids }

/-- When a write is accepted. -/
def Accepted (repository : Repository) : Request → Prop
  | store batch => Batch.Storable repository.nodes (· ∈ repository.partitions) batch
  | createPartitions batch =>
      (∃ node ∈ batch, node.parent = none)
      ∧ Batch.Storable repository.nodes (fun _ => True) batch
  | deletePartitions ids => ∀ id ∈ ids, id ∈ repository.partitions

variable {repository : Repository} {request : Request}

theorem mem_partitionsAfter_createPartitions (partitions : IdSet) (batch : List Instance)
    (id : String)
    : id ∈ partitionsAfter partitions (.createPartitions batch)
      ↔ id ∈ partitions ∨ ∃ node ∈ batch, node.parent = none ∧ node.id = id := by
  simp [partitionsAfter, Instance.isRoot, and_assoc]

/-- An accepted write submits well-shaped instances without repeated identifiers that own only
what is submitted or indexed.
-/
theorem Accepted.storable (accepted : request.Accepted repository)
    : Batch.Storable repository.nodes
        (· ∈ request.partitionsAfter repository.partitions) request.batch := by
  cases request with
  | store batch => exact accepted
  | createPartitions batch =>
      obtain ⟨-, storable⟩ := accepted
      refine ⟨storable.toWellFormed, storable.resolved, ?_⟩
      intro node member rootless
      exact (mem_partitionsAfter_createPartitions repository.partitions batch node.id).mpr
        (Or.inr ⟨node, member, rootless, rfl⟩)
  | deletePartitions ids =>
      exact ⟨⟨Nat.zero_le _, by simp [batch], by simp [batch]⟩, by simp [batch], by simp [batch]⟩

/-- A partition after an accepted write was one before or is a submitted root. -/
theorem mem_partitionsAfter {partitions : IdSet} {id : String}
    (member : id ∈ request.partitionsAfter partitions)
    : id ∈ partitions ∨ ∃ node ∈ request.batch, node.id = id ∧ node.parent = none := by
  cases request with
  | store batch => exact Or.inl member
  | createPartitions batch =>
      rcases (mem_partitionsAfter_createPartitions partitions batch id).mp member with
        before | ⟨node, submitted, rootless, same⟩
      · exact Or.inl before
      · exact Or.inr ⟨node, submitted, same, rootless⟩
  | deletePartitions ids =>
      simp only [partitionsAfter, IdSet.mem_filter_iff] at member
      exact Or.inl member.1

end Request

namespace Repository

/-- A store is the commit of a storable batch that keeps the partitions. -/
theorem store_eq_ok_iff (repository after : Repository) (batch : List Instance)
    (changes : Changes)
    : repository.store batch = .ok (after, changes)
      ↔ Batch.Storable repository.nodes (· ∈ repository.partitions) batch
        ∧ repository.commit repository.partitions {} batch = (after, changes) := by
  have acceptance := Batch.storeError?_eq_none_iff repository.nodes
    repository.partitions.contains batch
  simp only [ExtTreeSet.contains_iff_mem] at acceptance
  unfold store
  rw [← acceptance]
  split <;> simp_all

/-- A store is accepted exactly if its batch is storable. -/
theorem exists_store_eq_ok_iff (repository : Repository) (batch : List Instance)
    : (∃ written, repository.store batch = .ok written)
      ↔ Batch.Storable repository.nodes (· ∈ repository.partitions) batch := by
  constructor
  · rintro ⟨⟨after, changes⟩, done⟩
    exact ((repository.store_eq_ok_iff after batch changes).mp done).1
  · intro storable
    exact ⟨_, (repository.store_eq_ok_iff _ batch _).mpr ⟨storable, rfl⟩⟩

/-- Registering the roots that are new registers all roots, since the others are registered. -/
theorem foldl_insert_newPartitions (repository : Repository) (batch : List Instance)
    : (repository.newPartitions batch).foldl ExtTreeSet.insert repository.partitions
      = Request.partitionsAfter repository.partitions (.createPartitions batch) := by
  refine ExtTreeSet.ext_mem fun id => ?_
  simp only [Request.partitionsAfter, newPartitions, IdSet.mem_foldl_insert_set,
    IdSet.mem_foldl_insert, IdSet.mem_ofIds, List.mem_filter, Bool.not_eq_true',
    IdSet.contains_eq_false_iff]
  grind

/-- A submitted root is registered or about to be. -/
theorem registered_or_new (repository : Repository) {batch : List Instance} {node : Instance}
    (submitted : node ∈ batch) (rootless : node.parent = none)
    : node.id ∈ repository.partitions ∨ node.id ∈ repository.newPartitions batch := by
  simp only [newPartitions, IdSet.mem_ofIds, List.mem_filter, List.mem_map, Bool.not_eq_true',
    IdSet.contains_eq_false_iff]
  by_cases known : node.id ∈ repository.partitions
  · exact Or.inl known
  · exact Or.inr ⟨⟨node, ⟨submitted, by simp [Instance.isRoot, rootless]⟩, rfl⟩, known⟩

/-- A creation is checked as a store in which every root counts as registered, since those that
are not are about to be.
-/
theorem storeError?_newPartitions_eq_none_iff (repository : Repository) (batch : List Instance)
    : Batch.storeError? repository.nodes
          (fun id => repository.partitions.contains id || (repository.newPartitions batch).contains id)
          batch = none
      ↔ Batch.Storable repository.nodes (fun _ => True) batch := by
  rw [Batch.storeError?_eq_none_iff]
  refine ⟨fun storable => ⟨storable.toWellFormed, storable.resolved, fun _ _ _ => trivial⟩, ?_⟩
  intro storable
  refine ⟨storable.toWellFormed, storable.resolved, ?_⟩
  intro node member rootless
  simpa using repository.registered_or_new member rootless

/-- A creation is the commit of a storable batch with a root that registers all its roots. -/
theorem createPartitions_eq_ok_iff (repository after : Repository) (batch : List Instance)
    (changes : Changes)
    : repository.createPartitions batch = .ok (after, changes)
      ↔ (∃ node ∈ batch, node.parent = none)
        ∧ Batch.Storable repository.nodes (fun _ => True) batch
        ∧ repository.commit
            (Request.partitionsAfter repository.partitions (.createPartitions batch))
            { partitionsAdded := repository.newPartitions batch } batch
          = (after, changes) := by
  have rooted : (batch.filter Instance.isRoot).isEmpty = false
      ↔ ∃ node ∈ batch, node.parent = none := by
    simp [Instance.isRoot]
  rw [← rooted, ← storeError?_newPartitions_eq_none_iff, ← foldl_insert_newPartitions]
  unfold createPartitions newPartitions
  dsimp only
  split
  · simp_all
  · split <;> simp_all

/-- A deletion is the commit of nothing that drops registered partitions. -/
theorem deletePartitions_eq_ok_iff (repository after : Repository) (ids : List String)
    (changes : Changes)
    : repository.deletePartitions ids = .ok (after, changes)
      ↔ (∀ id ∈ ids, id ∈ repository.partitions)
        ∧ repository.commit
            (Request.partitionsAfter repository.partitions (.deletePartitions ids))
            { partitionsRemoved := IdSet.ofIds ids } []
          = (after, changes) := by
  have registry : repository.partitions.filter (fun id => !(IdSet.ofIds ids).contains id)
      = Request.partitionsAfter repository.partitions (.deletePartitions ids) := by
    refine ExtTreeSet.ext_mem fun id => ?_
    simp [Request.partitionsAfter]
  have registered : (ids.find? fun id => !repository.partitions.contains id) = none
      ↔ ∀ id ∈ ids, id ∈ repository.partitions := by
    simp
  rw [← registered, ← registry]
  unfold deletePartitions
  split <;> simp_all

/-- An accepted write has the effect of a commit, and every acceptable write is accepted. -/
theorem perform_eq_ok_iff (repository after : Repository) (request : Request)
    (changes : Changes)
    : repository.perform request = .ok (after, changes)
      ↔ request.Accepted repository
        ∧ repository.commit (request.partitionsAfter repository.partitions)
            (request.registration repository) request.batch
          = (after, changes) := by
  cases request with
  | store batch => exact repository.store_eq_ok_iff after batch changes
  | createPartitions batch =>
      rw [Request.Accepted, and_assoc]
      exact repository.createPartitions_eq_ok_iff after batch changes
  | deletePartitions ids => exact repository.deletePartitions_eq_ok_iff after ids changes

/-- The commit that a write ends in has the effect of a commit: what it records about
registrations leaves no other mark.
-/
theorem commits_request (repository : Repository) (request : Request)
    : repository.Commits (request.partitionsAfter repository.partitions) request.batch
        (repository.commit (request.partitionsAfter repository.partitions)
          (request.registration repository) request.batch).1
        (repository.commit (request.partitionsAfter repository.partitions)
          (request.registration repository) request.batch).2 := by
  have start : request.registration repository =
      { partitionsAdded := (request.registration repository).partitionsAdded
        partitionsRemoved := (request.registration repository).partitionsRemoved } := by
    cases request <;> rfl
  rw [start]
  exact repository.commit_commits _ _ _ request.batch

/-- What an accepted write does, whichever it is. -/
theorem commits_of_perform {repository after : Repository} {request : Request}
    {changes : Changes} (done : repository.perform request = .ok (after, changes))
    : request.Accepted repository
      ∧ repository.Commits (request.partitionsAfter repository.partitions) request.batch after
          changes := by
  obtain ⟨accepted, committed⟩ := (repository.perform_eq_ok_iff after request changes).mp done
  have effect := repository.commits_request request
  rw [committed] at effect
  exact ⟨accepted, effect⟩

-----------------------------------------------------------------------------------------
-- A repository in disorder
-----------------------------------------------------------------------------------------

/-- A repository as an import may leave it: two owners share a node, one of them lists a node that
is missing, the recorded parent of another node does not list it, and a node off the partition
lists itself.
-/
def tangled : Repository :=
  .ofParts { name := "tangled" } (IdSet.ofIds ["root"])
    (Index.ofInstances [
      .withChildren "root" none ["left", "right"],
      .withChildren "left" (some "root") ["shared", "first", "second"],
      .withChildren "right" (some "root") ["shared", "missing"],
      .withChildren "shared" (some "left") [],
      .withChildren "first" (some "left") [],
      .withChildren "second" (some "left") [],
      .withChildren "stray" (some "right") [],
      .withChildren "loop" (some "loop") ["loop"]])
    0 1

/-- A batch in which two nodes leave one owner that is not submitted, one of them for an owner that
is new, and in which the stray node and the loop are taken up. Nobody lists its last node.
-/
def regrouping : List Instance :=
  [ .withChildren "root" none ["left", "right", "first"],
    .withChildren "first" (some "root") ["fresh"],
    .withChildren "fresh" (some "first") ["second", "stray", "loop"],
    .withChildren "second" (some "fresh") [],
    .withChildren "stray" (some "fresh") [],
    .withChildren "unlisted" (some "left") [] ]

end Repository

end ModelRepository
