import ModelRepository.Proofs.Audit.Findings
import ModelRepository.Proofs.Repository.Commit

/-! What holds after any history of calls on a repository that started empty.
A call is a write or an allocation of identifiers; a rejected call leaves the repository as it
was. `Repository.Grounded` is the invariant that every call keeps.
-/

namespace ModelRepository

open Std

-----------------------------------------------------------------------------------------
-- Histories
-----------------------------------------------------------------------------------------

/-- A call that may change a repository. -/
inductive Call where
  | write (request : Request)
  | allocate (count : Nat)

namespace Repository

/-- The repository after a call. -/
def after (repository : Repository) : Call → Repository
  | .write request =>
      match repository.perform request with
      | .ok (written, _) => written
      | .error _ => repository
  | .allocate count =>
      match repository.allocate count with
      | .ok (counted, _) => counted
      | .error _ => repository

/-- The repository after a history of calls. -/
def run (repository : Repository) (calls : List Call) : Repository :=
  calls.foldl after repository

/-- A call leaves the repository behind that an accepted write does, or one that differs in its
identifier counter at most.
-/
theorem after_cases (repository : Repository) (call : Call)
    : (∃ request changes,
        call = .write request
        ∧ repository.perform request = .ok (repository.after call, changes))
      ∨ ∃ nextId, repository.after call = { repository with nextId } := by
  cases call with
  | write request =>
      cases done : repository.perform request with
      | error refusal => exact Or.inr ⟨repository.nextId, by simp only [after, done]⟩
      | ok written => exact Or.inl ⟨request, written.2, rfl, by simp only [after, done]⟩
  | allocate count =>
      refine Or.inr ?_
      simp only [after, Repository.allocate]
      cases allocateFrom repository.nodes [] repository.nextId count with
      | none => exact ⟨repository.nextId, rfl⟩
      | some allocated => exact ⟨allocated.2, rfl⟩

/-- Every accepted write of the history submits a batch that satisfies `rule` in the repository
it meets.
-/
def Submits (rule : Repository → List Instance → Prop) (repository : Repository)
    : List Call → Prop
  | [] => True
  | call :: rest =>
      (∀ request written changes,
        call = .write request
        → repository.perform request = .ok (written, changes)
        → rule repository request.batch)
      ∧ Submits rule (repository.after call) rest

/-- A history that submits under one rule submits under any weaker one, by induction on the calls. -/
theorem Submits.mono {rule weaker : Repository → List Instance → Prop} {repository : Repository}
    {calls : List Call} (submits : repository.Submits rule calls)
    (weakens : ∀ repository batch, rule repository batch → weaker repository batch)
    : repository.Submits weaker calls := by
  induction calls generalizing repository with
  | nil => trivial
  | cons call rest ih =>
      obtain ⟨ruled, later⟩ := submits
      exact ⟨fun request written changes same done =>
        weakens _ _ (ruled request written changes same done), ih later⟩

/-- What a start satisfies, and every allocation and every accepted write of a batch under `rule`
keeps, holds after any history that submits such batches only. By induction on the calls.
-/
theorem run_induction_of_submits {rule : Repository → List Instance → Prop}
    {motive : Repository → Prop} (start : Repository) (calls : List Call) (initial : motive start)
    (submits : start.Submits rule calls)
    (write : ∀ before request written changes,
      motive before
      → rule before request.batch
      → before.perform request = .ok (written, changes)
      → motive written)
    (allocate : ∀ before nextId, motive before → motive { before with nextId })
    : motive (start.run calls) := by
  unfold run
  induction calls generalizing start with
  | nil => exact initial
  | cons call rest ih =>
      obtain ⟨ruled, later⟩ := submits
      refine ih (start.after call) ?_ later
      obtain ⟨request, changes, same, done⟩ | ⟨nextId, counted⟩ := start.after_cases call
      · exact write start request _ changes initial (ruled request _ changes same done) done
      · exact counted ▸ allocate start nextId initial

/-- What a start satisfies and every accepted write and every allocation keeps holds after any
history, since every history submits batches under the rule that asks for nothing.
-/
theorem run_induction {motive : Repository → Prop} (start : Repository) (calls : List Call)
    (initial : motive start)
    (write : ∀ before request written changes,
      motive before → before.perform request = .ok (written, changes) → motive written)
    (allocate : ∀ before nextId, motive before → motive { before with nextId })
    : motive (start.run calls) := by
  have submits (repository : Repository) : repository.Submits (fun _ _ => True) calls := by
    induction calls generalizing repository with
    | nil => trivial
    | cons call rest ih => exact ⟨fun _ _ _ _ _ => trivial, ih _⟩
  exact run_induction_of_submits start calls initial (submits start)
    (fun before request written changes holds _ => write before request written changes holds)
    allocate

-----------------------------------------------------------------------------------------
-- The invariant
-----------------------------------------------------------------------------------------

/-- Everything indexed is reached from the partitions, lists indexed identifiers only and stands
under its own valid identifier; every partition is indexed.
-/
structure Grounded (repository : Repository) : Prop where
  reached : ∀ id, id ∈ repository.nodes ↔ id ∈ reachable repository.nodes repository.partitions
  resolved
    : ∀ (id : String) (node : Instance),
        repository.nodes[id]? = some node
        → ∀ owned ∈ node.ownedIds, owned ∈ repository.nodes
  registered : ∀ id ∈ repository.partitions, id ∈ repository.nodes
  keyed
    : ∀ (id : String) (node : Instance),
        repository.nodes[id]? = some node → isValidId id = true ∧ node.id = id

/-- An empty repository is grounded, since nothing is indexed or registered. -/
theorem create_grounded (configuration : Configuration) : (create configuration).Grounded := by
  have empty (id : String) : id ∉ (create configuration).nodes := ExtTreeMap.not_mem_empty
  refine ⟨?_, ?_, ?_, ?_⟩
  · intro id
    rw [mem_reachable_iff]
    exact ⟨fun indexed => (empty id indexed).elim, Reaches.indexed⟩
  · intro id node found
    exact (empty id (Index.mem_of_getElem? found)).elim
  · intro id registered
    exact (ExtTreeSet.not_mem_empty registered).elim
  · intro id node found
    exact (empty id (Index.mem_of_getElem? found)).elim

/-- After any accepted write the index holds exactly what the partitions reach in it, whatever it
held before: the write ends with a sweep.
-/
theorem mem_nodes_iff_of_perform {before written : Repository} {request : Request}
    {changes : Changes} (done : before.perform request = .ok (written, changes)) (id : String)
    : id ∈ written.nodes ↔ id ∈ reachable written.nodes written.partitions := by
  obtain ⟨-, effect⟩ := commits_of_perform done
  rw [mem_reachable_iff, effect.registry]
  exact effect.sweep.mem_iff_reaches

/-- A merged instance lists only what the merge indexes, when the stored ones did and the batch
was accepted.
-/
theorem merge_resolved {index : Index} {registered : String → Prop} {batch : List Instance}
    (resolved : ∀ (id : String) (node : Instance),
      index[id]? = some node → ∀ owned ∈ node.ownedIds, owned ∈ index)
    (storable : Batch.Storable index registered batch) {id : String} {node : Instance}
    (found : (index.merge batch)[id]? = some node)
    : ∀ owned ∈ node.ownedIds, owned ∈ index.merge batch := by
  intro owned lists
  rw [Index.mem_merge_iff]
  rcases index.getElem?_merge_cases storable.unique found with
    ⟨submitted, -⟩ | ⟨-, stored, before, rfl⟩
  · exact (storable.resolved node submitted owned lists).symm
  · rw [Instance.disownAll_ownedIds] at lists
    exact Or.inl (resolved id stored before owned (List.mem_filter.mp lists).1)

/-- An accepted write keeps a repository grounded. Witness: validation looks at the index before
the write, but whatever it finds there is still in the merge, and the sweep keeps what a kept
instance lists.
-/
theorem Grounded.perform {before written : Repository} {request : Request} {changes : Changes}
    (grounded : before.Grounded) (done : before.perform request = .ok (written, changes))
    : written.Grounded := by
  obtain ⟨accepted, effect⟩ := commits_of_perform done
  have storable := accepted.storable
  refine ⟨mem_nodes_iff_of_perform done, ?_, ?_, ?_⟩
  · intro id node found owned lists
    obtain ⟨merged, reached⟩ := (effect.sweep id node).mp found
    have indexed := merge_resolved grounded.resolved storable merged owned lists
    exact effect.sweep.mem_iff.mpr (reached.listed merged lists indexed)
  · intro id registered
    rw [effect.registry] at registered
    refine effect.sweep.mem_iff.mpr (.root registered ?_)
    rw [Index.mem_merge_iff]
    rcases request.mem_partitionsAfter registered with earlier | ⟨node, submitted, rfl, -⟩
    · exact Or.inl (grounded.registered id earlier)
    · exact Or.inr (List.mem_map_of_mem submitted)
  · intro id node found
    obtain ⟨merged, -⟩ := (effect.sweep id node).mp found
    rcases before.nodes.getElem?_merge_cases storable.unique merged with
      ⟨submitted, rfl⟩ | ⟨-, stored, earlier, rfl⟩
    · exact ⟨(storable.shaped node submitted).id, rfl⟩
    · exact grounded.keyed id stored earlier

/-- Every history from an empty repository leads to a grounded one. -/
theorem run_grounded (configuration : Configuration) (calls : List Call)
    : ((create configuration).run calls).Grounded :=
  run_induction (create configuration) calls (create_grounded configuration)
    (fun _ _ _ _ grounded done => grounded.perform done)
    (fun _ _ grounded =>
      ⟨grounded.reached, grounded.resolved, grounded.registered, grounded.keyed⟩)

/-- The audit of a grounded repository finds nothing wrong with identifiers, listed identifiers,
the presence of partitions or reachability, by cases on the breach.
-/
theorem Grounded.audit_kind {repository : Repository} (grounded : repository.Grounded)
    (catalog : Catalog) {issue : Issue} (reported : issue ∈ repository.audit catalog)
    : issue.kind ≠ .invalidId
      ∧ issue.kind ≠ .danglingChild
      ∧ issue.kind ≠ .missingPartitionRoot
      ∧ issue.kind ≠ .unreachable := by
  have finding := (Audit.mem_audit_iff catalog repository issue).mp reported
  cases finding with
  | invalidId indexed invalid =>
      obtain ⟨node, found⟩ := (repository.nodes.mem_iff_exists _).mp indexed
      rw [(grounded.keyed _ node found).1] at invalid
      cases invalid
  | danglingChild found lists missing =>
      exact (missing (grounded.resolved _ _ found _ (List.mem_append_left _ lists))).elim
  | danglingAnnotationId found lists missing =>
      exact (missing (grounded.resolved _ _ found _ (List.mem_append_right _ lists))).elim
  | missingPartitionRoot registered missing =>
      exact (missing (grounded.registered _ registered)).elim
  | unreachable indexed unreached =>
      exact (unreached (mem_reachable_iff _ _ _ |>.mp ((grounded.reached _).mp indexed))).elim
  | _ => simp [Issue.kind]

/-- After every history from an empty repository, accepted or rejected call by call, the index
holds exactly what the partitions reach, lists only what it holds, holds every partition and keeps
every instance under its own valid identifier. Audits therefore report none of the four kinds of
issues that would say otherwise. On any repository at all, the first of these holds after every
accepted write.
-/
theorem run_grounded_and_swept (configuration : Configuration) (calls : List Call)
    (catalog : Catalog)
    : ((create configuration).run calls).Grounded
      ∧ (∀ issue ∈ ((create configuration).run calls).audit catalog,
          issue.kind ≠ .invalidId
          ∧ issue.kind ≠ .danglingChild
          ∧ issue.kind ≠ .missingPartitionRoot
          ∧ issue.kind ≠ .unreachable)
      ∧ ∀ (before written : Repository) (request : Request) (changes : Changes),
          before.perform request = .ok (written, changes)
          → ∀ id, id ∈ written.nodes ↔ id ∈ reachable written.nodes written.partitions :=
  ⟨run_grounded configuration calls,
    fun _ reported => (run_grounded configuration calls).audit_kind catalog reported,
    fun _ _ _ _ done => mem_nodes_iff_of_perform done⟩

/-- Storing into the tangled repository sweeps it. -/
theorem store_tangled_swept
    : tangled.perform (.store regrouping)
        = .ok (tangled.commit tangled.partitions {} regrouping)
      ∧ ∀ id,
          id ∈ (tangled.commit tangled.partitions {} regrouping).1.nodes
          ↔ id ∈ reachable (tangled.commit tangled.partitions {} regrouping).1.nodes
              (tangled.commit tangled.partitions {} regrouping).1.partitions := by
  have done : tangled.perform (.store regrouping)
      = .ok (tangled.commit tangled.partitions {} regrouping) := rfl
  exact ⟨done, (run_grounded_and_swept { name := "tangled" } [] .standard).2.2 _ _ _ _ done⟩

end Repository

end ModelRepository
