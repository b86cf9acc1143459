import ModelRepository.Proofs.Repository.Commit

/-! A submitted batch takes effect all at once. Storing works through the batch twice and then
sweeps, but what it leaves behind is the sweep of one simultaneous merge, in which the order of
the batch has no part.
-/

namespace ModelRepository

open Std

namespace Request

variable {repository : Repository}

/-- Two writes of one kind whose batches differ in order alone: both are acceptable or neither
is, and they leave the same partitions.
-/
structure Reorders (repository : Repository) (request other : Request) : Prop where
  batch : request.batch.Perm other.batch
  accepted : request.Accepted repository ↔ other.Accepted repository
  partitions
    : request.partitionsAfter repository.partitions = other.partitionsAfter repository.partitions

/-- Storing in another order, condition by condition. -/
theorem reorders_store {batch other : List Instance} (same : batch.Perm other)
    : Reorders repository (.store batch) (.store other) :=
  ⟨same, ⟨fun storable => storable.perm same, fun storable => storable.perm same.symm⟩, rfl⟩

/-- Creating in another order, condition by condition. -/
theorem reorders_createPartitions {batch other : List Instance} (same : batch.Perm other)
    : Reorders repository (.createPartitions batch) (.createPartitions other) := by
  refine ⟨same, ?_, ?_⟩
  · simp only [Accepted, same.mem_iff]
    exact and_congr_right fun _ =>
      ⟨fun storable => storable.perm same, fun storable => storable.perm same.symm⟩
  · refine ExtTreeSet.ext_mem fun id => ?_
    simp only [mem_partitionsAfter_createPartitions, same.mem_iff]

end Request

namespace Repository

variable (repository : Repository)

/-- A write succeeds with a given repository when it is acceptable and its commit ends there. -/
theorem toOption_perform_eq_some_iff (after : Repository) (request : Request)
    : (repository.perform request).toOption.map Prod.fst = some after
      ↔ request.Accepted repository
        ∧ (repository.commit (request.partitionsAfter repository.partitions)
            (request.registration repository) request.batch).1
          = after := by
  have outcome (changes : Changes) := repository.perform_eq_ok_iff after request changes
  constructor
  · intro succeeds
    cases done : repository.perform request with
    | error refusal => simp [done, Except.toOption] at succeeds
    | ok written =>
        have same : written.1 = after := by simpa [done, Except.toOption] using succeeds
        obtain ⟨accepted, committed⟩ := (outcome written.2).mp (by rw [done, ← same])
        exact ⟨accepted, by rw [committed]⟩
  · rintro ⟨accepted, committed⟩
    have done := (outcome _).mpr ⟨accepted, Prod.ext committed rfl⟩
    simp [done, Except.toOption]

/-- The commit of a reordered batch ends in the same repository: an index has one sweep, and the
order of a batch does not count for its merge.
-/
theorem commit_reorders {request other : Request} (same : request.Reorders repository other)
    (accepted : request.Accepted repository)
    : (repository.commit (request.partitionsAfter repository.partitions)
          (request.registration repository) request.batch).1
      = (repository.commit (other.partitionsAfter repository.partitions)
          (other.registration repository) other.batch).1 := by
  have effect := repository.commits_request request
  rw [same.partitions] at effect ⊢
  exact effect.unique (repository.commits_request other)
    (repository.nodes.merge_perm same.batch accepted.storable.unique)

/-- Writes that differ in the order of their batch alone succeed alike. -/
theorem perform_reorders {request other : Request} (same : request.Reorders repository other)
    : (repository.perform request).toOption.map Prod.fst
      = (repository.perform other).toOption.map Prod.fst := by
  refine Option.ext fun after => ?_
  rw [toOption_perform_eq_some_iff, toOption_perform_eq_some_iff, ← same.accepted]
  refine and_congr_right fun accepted => ?_
  rw [repository.commit_reorders same accepted]

/-- An accepted submission leaves the sweep of its simultaneous merge. -/
theorem isSweepOf_merge_of_perform (request : Request) {repository after : Repository}
    {changes : Changes} (done : repository.perform request = .ok (after, changes))
    : after.partitions = request.partitionsAfter repository.partitions
      ∧ ∃ merged : Index,
          merged.IsMergeOf repository.nodes request.batch
          ∧ after.nodes.IsSweepOf merged after.partitions := by
  obtain ⟨accepted, effect⟩ := commits_of_perform done
  refine ⟨effect.registry, repository.nodes.merge request.batch,
    repository.nodes.merge_isMergeOf accepted.storable.unique, ?_⟩
  rw [effect.registry]
  exact effect.sweep

/-- A deletion sweeps what only the unregistered partitions reached, since merging nothing changes
nothing.
-/
theorem isSweepOf_of_deletePartitions {repository after : Repository} {ids : List String}
    {changes : Changes} (done : repository.deletePartitions ids = .ok (after, changes))
    : (∀ id, id ∈ after.partitions ↔ id ∈ repository.partitions ∧ id ∉ ids)
      ∧ after.nodes.IsSweepOf repository.nodes after.partitions := by
  have performed : repository.perform (.deletePartitions ids) = .ok (after, changes) := done
  obtain ⟨-, effect⟩ := commits_of_perform performed
  have sweep := effect.sweep
  rw [Request.batch, Index.merge_nil, ← effect.registry] at sweep
  refine ⟨fun id => ?_, sweep⟩
  rw [effect.registry]
  simp [Request.partitionsAfter]

/-- An accepted batch is merged into the index at once, and what is left is the part of the merge
that the partitions reach: the former ones when the batch was stored, those and the submitted
roots when partitions were created. The order of the batch decides neither whether it is accepted
nor what it leaves behind.
-/
theorem submission_is_simultaneous (batch : List Instance)
    : (∀ after changes,
        repository.store batch = .ok (after, changes)
        → after.partitions = repository.partitions
          ∧ ∃ merged : Index,
              merged.IsMergeOf repository.nodes batch
              ∧ after.nodes.IsSweepOf merged after.partitions)
      ∧ (∀ after changes,
          repository.createPartitions batch = .ok (after, changes)
          → (∀ id,
              id ∈ after.partitions
              ↔ id ∈ repository.partitions ∨ ∃ node ∈ batch, node.parent = none ∧ node.id = id)
            ∧ ∃ merged : Index,
                merged.IsMergeOf repository.nodes batch
                ∧ after.nodes.IsSweepOf merged after.partitions)
      ∧ ∀ other,
          batch.Perm other
          → (repository.store batch).toOption.map Prod.fst
              = (repository.store other).toOption.map Prod.fst
            ∧ (repository.createPartitions batch).toOption.map Prod.fst
              = (repository.createPartitions other).toOption.map Prod.fst := by
  refine ⟨?_, ?_, ?_⟩
  · intro after changes done
    exact isSweepOf_merge_of_perform (.store batch) done
  · intro after changes done
    obtain ⟨registry, merged⟩ := isSweepOf_merge_of_perform (.createPartitions batch) done
    refine ⟨fun id => ?_, merged⟩
    rw [registry]
    exact Request.mem_partitionsAfter_createPartitions repository.partitions batch id
  · intro other same
    exact ⟨repository.perform_reorders (Request.reorders_store same),
      repository.perform_reorders (Request.reorders_createPartitions same)⟩

/-- The regrouping of the tangled repository is accepted as a submission of either kind, in either
direction.
-/
theorem regrouping_is_simultaneous
    : (tangled.store regrouping = .ok (tangled.commit tangled.partitions {} regrouping)
        ∧ ∃ merged : Index,
            merged.IsMergeOf tangled.nodes regrouping
            ∧ (tangled.commit tangled.partitions {} regrouping).1.nodes.IsSweepOf merged
                tangled.partitions)
      ∧ (∃ after changes,
          tangled.createPartitions regrouping = .ok (after, changes)
          ∧ ∃ merged : Index,
              merged.IsMergeOf tangled.nodes regrouping
              ∧ after.nodes.IsSweepOf merged after.partitions)
      ∧ (tangled.store regrouping).toOption.map Prod.fst
          = (tangled.store regrouping.reverse).toOption.map Prod.fst := by
  obtain ⟨stored, created, reordered⟩ := submission_is_simultaneous tangled regrouping
  have store : tangled.store regrouping = .ok (tangled.commit tangled.partitions {} regrouping) :=
    rfl
  have create : ∃ written, tangled.createPartitions regrouping = .ok written := ⟨_, rfl⟩
  obtain ⟨⟨after, changes⟩, create⟩ := create
  exact ⟨⟨store, (stored _ _ store).2⟩, ⟨after, changes, create, (created _ _ create).2⟩,
    (reordered _ regrouping.reverse_perm.symm).1⟩

end Repository

end ModelRepository
