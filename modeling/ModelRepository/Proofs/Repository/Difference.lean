import ModelRepository.Proofs.Repository.Commit

/-! The record of changes that a write returns. Two passes and a sweep put it together and take
parts of it back, but in the end it tells exactly how the repository after the write differs from
the one before.
-/

namespace ModelRepository

open Std

/-- What `changes` must tell about a write that submitted `batch` to `before` and left `after`.
What is submitted counts as upserted even if it replaces its like, so the upserted identifiers are
only bounded from both sides.
-/
structure Changes.IsDifference (changes : Changes) (before after : Repository)
    (batch : List Instance) : Prop where
  deleted : ∀ id, id ∈ changes.deleted ↔ id ∈ before.nodes ∧ id ∉ after.nodes
  partitionsAdded
    : ∀ id, id ∈ changes.partitionsAdded ↔ id ∈ after.partitions ∧ id ∉ before.partitions
  partitionsRemoved
    : ∀ id, id ∈ changes.partitionsRemoved ↔ id ∈ before.partitions ∧ id ∉ after.partitions
  indexed : ∀ id ∈ changes.upserted, id ∈ after.nodes
  disjoint : ∀ id ∈ changes.upserted, id ∉ changes.deleted
  complete
    : ∀ id ∈ after.nodes, after.nodes[id]? ≠ before.nodes[id]? → id ∈ changes.upserted
  unchanged
    : ∀ id, id ∉ changes.upserted → id ∉ changes.deleted → after.nodes[id]? = before.nodes[id]?
  transient
    : ∀ node ∈ batch,
        node.id ∉ before.nodes
        → node.id ∉ after.nodes
        → node.id ∉ changes.upserted
          ∧ node.id ∉ changes.deleted
          ∧ node.id ∉ changes.partitionsAdded
          ∧ node.id ∉ changes.partitionsRemoved

-----------------------------------------------------------------------------------------
-- Registrations
-----------------------------------------------------------------------------------------

namespace Request

variable {repository : Repository} {request : Request}

/-- An accepted write records the partitions that it registers, kind by kind. -/
theorem mem_registration_added_iff (repository : Repository) (request : Request) (id : String)
    : id ∈ (request.registration repository).partitionsAdded
      ↔ id ∈ request.partitionsAfter repository.partitions ∧ id ∉ repository.partitions := by
  cases request with
  | store batch => simp [registration, partitionsAfter]
  | createPartitions batch =>
      simp only [registration, partitionsAfter, Repository.newPartitions, IdSet.mem_ofIds,
        List.mem_filter, Bool.not_eq_true', IdSet.contains_eq_false_iff, IdSet.mem_foldl_insert]
      grind
  | deletePartitions ids =>
      simp only [registration, partitionsAfter, ExtTreeSet.not_mem_empty, IdSet.mem_filter_iff]
      grind

/-- An accepted write records the partitions that it drops, all of which were registered. -/
theorem mem_registration_removed_iff (accepted : request.Accepted repository) (id : String)
    : id ∈ (request.registration repository).partitionsRemoved
      ↔ id ∈ repository.partitions ∧ id ∉ request.partitionsAfter repository.partitions := by
  cases request with
  | store batch => simp [registration, partitionsAfter]
  | createPartitions batch =>
      simp only [registration, partitionsAfter, ExtTreeSet.not_mem_empty, IdSet.mem_foldl_insert]
      grind
  | deletePartitions ids =>
      simp only [registration, partitionsAfter, IdSet.mem_ofIds, IdSet.mem_filter_iff,
        decide_eq_true_eq]
      have registered := accepted id
      grind

/-- A write that submits anything drops no partition. -/
theorem registered_of_mem_batch {node : Instance} (submitted : node ∈ request.batch)
    {id : String} (registered : id ∈ repository.partitions)
    : id ∈ request.partitionsAfter repository.partitions := by
  cases request with
  | store batch => exact registered
  | createPartitions batch => simp [partitionsAfter, registered]
  | deletePartitions ids => cases submitted

end Request

-----------------------------------------------------------------------------------------
-- The record of a commit
-----------------------------------------------------------------------------------------

namespace Repository

/-- A commit leaves what its record says about registrations as it is. -/
theorem commit_registration (repository : Repository) (partitions : IdSet) (changes : Changes)
    (batch : List Instance)
    : (repository.commit partitions changes batch).2.partitionsAdded = changes.partitionsAdded
      ∧ (repository.commit partitions changes batch).2.partitionsRemoved
          = changes.partitionsRemoved :=
  ((Update.mk repository.nodes changes).apply_changes batch).2

/-- An accepted write records nothing else about registrations. -/
theorem registration_of_perform {before after : Repository} {request : Request} {changes : Changes}
    (done : before.perform request = .ok (after, changes))
    : changes.partitionsAdded = (request.registration before).partitionsAdded
      ∧ changes.partitionsRemoved = (request.registration before).partitionsRemoved := by
  obtain ⟨-, committed⟩ := (before.perform_eq_ok_iff after request changes).mp done
  have registration := before.commit_registration (request.partitionsAfter before.partitions)
    (request.registration before) request.batch
  rwa [committed] at registration

namespace Commits

variable {before after : Repository} {partitions : IdSet} {batch : List Instance}
  {changes : Changes} {id : String}

/-- What is left in place of another instance or of none is upserted, since the sweep leaves what
the merge holds.
-/
theorem mem_upserted_of_differs (effect : before.Commits partitions batch after changes)
    (kept : id ∈ after.nodes) (differs : after.nodes[id]? ≠ before.nodes[id]?)
    : id ∈ changes.upserted := by
  rw [effect.sweep.getElem?_eq (effect.sweep.mem_iff.mp kept)] at differs
  exact (effect.upserted id).mpr ⟨kept, Or.inr differs⟩

/-- What is neither upserted nor deleted stays as it was, present or absent. -/
theorem getElem?_eq (effect : before.Commits partitions batch after changes)
    (unmarked : id ∉ changes.upserted) (undeleted : id ∉ changes.deleted)
    : after.nodes[id]? = before.nodes[id]? := by
  by_cases kept : id ∈ after.nodes
  · by_cases same : after.nodes[id]? = before.nodes[id]?
    · exact same
    · exact (unmarked (effect.mem_upserted_of_differs kept same)).elim
  · have unknown : id ∉ before.nodes := fun earlier =>
      undeleted ((effect.deleted id).mpr ⟨earlier, kept⟩)
    rw [ExtTreeMap.getElem?_eq_none kept, ExtTreeMap.getElem?_eq_none unknown]

end Commits

/-- A partition that an accepted write registers is indexed after it: it is a submitted root, and
the sweep starts from it.
-/
theorem Commits.mem_nodes_of_registered {before after : Repository} {request : Request}
    {changes : Changes} {id : String}
    (effect
      : before.Commits (request.partitionsAfter before.partitions) request.batch after changes)
    (registered : id ∈ after.partitions) (fresh : id ∉ before.partitions)
    : id ∈ after.nodes := by
  rw [effect.registry] at registered
  obtain ⟨node, submitted, rfl, -⟩ :=
    (request.mem_partitionsAfter registered).resolve_left fresh
  refine effect.sweep.mem_iff.mpr (.root registered ?_)
  exact (before.nodes.mem_merge_iff request.batch node.id).mpr
    (Or.inr (List.mem_map_of_mem submitted))

/-- The record that an accepted write returns is the difference it made, whatever the repository
held before.
-/
theorem changes_of_perform (before after : Repository) (request : Request) (changes : Changes)
    (done : before.perform request = .ok (after, changes))
    : changes.IsDifference before after request.batch := by
  obtain ⟨accepted, effect⟩ := commits_of_perform done
  obtain ⟨-, committed⟩ := (before.perform_eq_ok_iff after request changes).mp done
  obtain ⟨added, removed⟩ := before.commit_registration
    (request.partitionsAfter before.partitions) (request.registration before) request.batch
  rw [committed] at added removed
  have partitionsAdded (id : String) : id ∈ changes.partitionsAdded
      ↔ id ∈ after.partitions ∧ id ∉ before.partitions := by
    rw [added, effect.registry]
    exact request.mem_registration_added_iff before id
  have partitionsRemoved (id : String) : id ∈ changes.partitionsRemoved
      ↔ id ∈ before.partitions ∧ id ∉ after.partitions := by
    rw [removed, effect.registry]
    exact Request.mem_registration_removed_iff accepted id
  have indexed (id : String) (marked : id ∈ changes.upserted) : id ∈ after.nodes :=
    ((effect.upserted id).mp marked).1
  refine ⟨effect.deleted, partitionsAdded, partitionsRemoved, indexed, ?_, ?_, ?_, ?_⟩
  · intro id marked gone
    exact ((effect.deleted id).mp gone).2 (indexed id marked)
  · exact fun id kept differs => effect.mem_upserted_of_differs kept differs
  · exact fun id unmarked undeleted => effect.getElem?_eq unmarked undeleted
  · intro node submitted fresh swept
    refine ⟨fun marked => swept (indexed _ marked), ?_, ?_, ?_⟩
    · exact fun gone => fresh ((effect.deleted _).mp gone).1
    · intro registered
      obtain ⟨now, new⟩ := (partitionsAdded _).mp registered
      exact swept (effect.mem_nodes_of_registered now new)
    · intro dropped
      obtain ⟨earlier, no⟩ := (partitionsRemoved _).mp dropped
      rw [effect.registry] at no
      exact no (Request.registered_of_mem_batch submitted earlier)

/-- The regrouping of the tangled repository tells its difference. -/
theorem regrouping_changes
    : tangled.perform (.store regrouping) = .ok (tangled.commit tangled.partitions {} regrouping)
      ∧ (tangled.commit tangled.partitions {} regrouping).2.IsDifference tangled
          (tangled.commit tangled.partitions {} regrouping).1 regrouping := by
  have done : tangled.perform (.store regrouping)
      = .ok (tangled.commit tangled.partitions {} regrouping) := rfl
  exact ⟨done, changes_of_perform tangled _ (.store regrouping) _ done⟩

end Repository

end ModelRepository
