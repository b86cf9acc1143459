import ModelRepository.Proofs.Repository.Commit

/-! When a submission is accepted, and why a well-formed one is refused.
The checks stop at the first offence they meet. Acceptance is a list of conditions without an order;
what a well-formed batch is refused for is the first offence of its first instance that cannot take
its place.
-/

namespace ModelRepository

open Std

-----------------------------------------------------------------------------------------
-- Instances out of place
-----------------------------------------------------------------------------------------

namespace Instance

/-- All that an instance owns is known, and it is registered if it is a root. -/
structure WellPlaced (known registered : String → Prop) (node : Instance) : Prop where
  resolved : ∀ id ∈ node.ownedIds, known id
  rooted : node.parent = none → registered node.id

/-- Why an instance cannot take its place: the first identifier that it owns and that is not known,
its children before its annotations, or else its missing registration.
-/
inductive Misplaced (known registered : String → Prop) (node : Instance) : RepositoryError → Prop
  | dangling {before after : List String} {missing : String}
    (lists : node.childIds ++ node.annotations = before ++ missing :: after)
    (resolved : ∀ id ∈ before, known id) (unknown : ¬ known missing)
    : Misplaced known registered node (.danglingContainment node.id missing)
  | unregistered (resolved : ∀ id ∈ node.childIds ++ node.annotations, known id)
    (rootless : node.parent = none) (unregistered : ¬ registered node.id)
    : Misplaced known registered node (.unregisteredPartition node.id)

variable {known registered other : String → Prop} {node : Instance} {error : RepositoryError}

/-- Only the registration of a root counts, case by case. -/
theorem Misplaced.of_registered (misplaced : node.Misplaced known registered error)
    (same : node.parent = none → (registered node.id ↔ other node.id))
    : node.Misplaced known other error := by
  cases misplaced with
  | dangling lists resolved unknown => exact .dangling lists resolved unknown
  | unregistered resolved rootless absent =>
      exact .unregistered resolved rootless (mt (same rootless).mpr absent)

/-- The check of place passes the well-placed instances. -/
theorem placeError?_eq_none_iff_wellPlaced (known registered : String → Bool) (node : Instance)
    : node.placeError? known registered = none
      ↔ node.WellPlaced (known · = true) (registered · = true) :=
  (placeError?_eq_none_iff known registered node).trans
    ⟨fun ⟨resolved, rooted⟩ => ⟨resolved, rooted⟩, fun ⟨resolved, rooted⟩ => ⟨resolved, rooted⟩⟩

/-- An instance whose lists are resolved is misplaced as an unregistered root alone. -/
theorem misplaced_iff_of_resolved (resolved : ∀ id ∈ node.ownedIds, known id)
    : node.Misplaced known registered error
      ↔ node.parent = none ∧ ¬ registered node.id ∧ error = .unregisteredPartition node.id := by
  constructor
  · intro misplaced
    cases misplaced with
    | dangling lists _ unknown => exact (unknown (resolved _ (by simp [ownedIds, lists]))).elim
    | unregistered _ rootless unregistered => exact ⟨rootless, unregistered, rfl⟩
  · rintro ⟨rootless, unregistered, rfl⟩
    exact .unregistered resolved rootless unregistered

/-- An instance is misplaced for the first identifier in its lists that is not known, if any. -/
theorem misplaced_iff_of_find? {known : String → Bool} {missing : String}
    (found : node.ownedIds.find? (fun id => !known id) = some missing)
    : node.Misplaced (known · = true) registered error
      ↔ error = .danglingContainment node.id missing := by
  have first (id : String) : node.ownedIds.find? (fun id => !known id) = some id
      ↔ ¬ known id = true
        ∧ ∃ before after,
            node.childIds ++ node.annotations = before ++ id :: after
            ∧ ∀ other ∈ before, known other = true := by
    rw [List.find?_eq_some_iff_append, ownedIds]
    simp
  obtain ⟨unknown, before, after, lists, resolved⟩ := (first missing).mp found
  constructor
  · intro misplaced
    cases misplaced with
    | dangling listsToo resolvedToo unknownToo =>
        cases found.symm.trans ((first _).mpr ⟨unknownToo, _, _, listsToo, resolvedToo⟩)
        rfl
    | unregistered complete _ _ => exact (unknown (complete missing (by simp [lists]))).elim
  · rintro rfl
    exact .dangling lists resolved unknown

/-- The check of place reports why an instance is misplaced, with its lists resolved or not. -/
theorem placeError?_eq_some_iff (known registered : String → Bool) (node : Instance)
    (error : RepositoryError)
    : node.placeError? known registered = some error
      ↔ node.Misplaced (known · = true) (registered · = true) error := by
  unfold placeError?
  split
  · rename_i missing found
    rw [misplaced_iff_of_find? found, Option.some.injEq, eq_comm]
  · rename_i complete
    have resolved : ∀ id ∈ node.ownedIds, known id = true := by simpa using complete
    have absent : (node.isRoot && !registered node.id) = true
        ↔ node.parent = none ∧ ¬ registered node.id = true := by
      simp [isRoot]
    rw [misplaced_iff_of_resolved resolved, ← and_assoc, ← absent]
    split
    · rename_i unregistered
      rw [and_iff_right unregistered, Option.some.injEq, eq_comm]
    · rename_i placed
      simp [placed]

end Instance

-----------------------------------------------------------------------------------------
-- The first offence of a batch
-----------------------------------------------------------------------------------------

namespace Batch

/-- `error` says why the first instance of `batch` that cannot take its place cannot do so. What is
submitted or indexed is known, whichever place in the batch it has.
-/
def FirstMisplaced (index : Index) (registered : String → Prop) (batch : List Instance)
    (error : RepositoryError) : Prop :=
  ∃ earlier node later,
    batch = earlier ++ node :: later
    ∧ (∀ other ∈ earlier,
        other.WellPlaced (fun id => id ∈ batch.map Instance.id ∨ id ∈ index) registered)
    ∧ node.Misplaced (fun id => id ∈ batch.map Instance.id ∨ id ∈ index) registered error

variable {index : Index} {batch : List Instance} {error : RepositoryError}

/-- A well-formed batch is refused for its first instance that is out of place. -/
theorem storeError?_eq_some_iff (wellFormed : WellFormed batch) (registered : String → Bool)
    (error : RepositoryError)
    : storeError? index registered batch = some error
      ↔ FirstMisplaced index (registered · = true) batch error := by
  unfold storeError?
  rw [(shapeError?_eq_none_iff batch).mpr wellFormed]
  simp only [List.findSome?_eq_some_iff, Instance.placeError?_eq_some_iff,
    Instance.placeError?_eq_none_iff_wellPlaced, Bool.or_eq_true, ExtTreeSet.contains_iff_mem,
    ExtTreeMap.contains_iff_mem, IdSet.mem_ofIds, FirstMisplaced]
  simp only [and_comm]

/-- Only the registration of submitted roots counts, instance by instance. -/
theorem FirstMisplaced.of_registered {registered other : String → Prop}
    (first : FirstMisplaced index registered batch error)
    (same : ∀ node ∈ batch, node.parent = none → (registered node.id ↔ other node.id))
    : FirstMisplaced index other batch error := by
  obtain ⟨earlier, node, later, rfl, placed, misplaced⟩ := first
  refine ⟨earlier, node, later, rfl, fun before member => ?_, ?_⟩
  · obtain ⟨resolved, rooted⟩ := placed before member
    refine ⟨resolved, fun rootless => ?_⟩
    exact (same before (by simp [member]) rootless).mp (rooted rootless)
  · exact misplaced.of_registered (same node (by simp))

end Batch

-----------------------------------------------------------------------------------------
-- Submissions
-----------------------------------------------------------------------------------------

namespace Repository

variable {repository : Repository} {batch : List Instance} {error : RepositoryError}

/-- Partitions are created exactly from a storable batch with a root, registered or not. -/
theorem exists_createPartitions_eq_ok_iff (repository : Repository) (batch : List Instance)
    : (∃ written, repository.createPartitions batch = .ok written)
      ↔ (∃ node ∈ batch, node.parent = none)
        ∧ Batch.Storable repository.nodes (fun _ => True) batch := by
  constructor
  · rintro ⟨⟨after, changes⟩, done⟩
    obtain ⟨rooted, storable, -⟩ :=
      (repository.createPartitions_eq_ok_iff after batch changes).mp done
    exact ⟨rooted, storable⟩
  · rintro ⟨rooted, storable⟩
    exact ⟨_, (repository.createPartitions_eq_ok_iff _ batch _).mpr ⟨rooted, storable, rfl⟩⟩

/-- A store refuses a well-formed batch for its first instance out of place. -/
theorem store_eq_error_iff (wellFormed : Batch.WellFormed batch)
    : repository.store batch = .error error
      ↔ Batch.FirstMisplaced repository.nodes (· ∈ repository.partitions) batch error := by
  have refused : repository.store batch = .error error
      ↔ Batch.storeError? repository.nodes repository.partitions.contains batch = some error := by
    unfold store
    split <;> simp_all
  rw [refused, Batch.storeError?_eq_some_iff wellFormed]
  simp only [ExtTreeSet.contains_iff_mem]

/-- So does a creation if the batch has a root, but as if every submitted root were registered. -/
theorem createPartitions_eq_error_iff (wellFormed : Batch.WellFormed batch)
    (rooted : ∃ node ∈ batch, node.parent = none)
    : repository.createPartitions batch = .error error
      ↔ Batch.FirstMisplaced repository.nodes (fun _ => True) batch error := by
  have nonempty : (batch.filter Instance.isRoot).isEmpty = false := by
    simpa [Instance.isRoot] using rooted
  have refused : repository.createPartitions batch = .error error
      ↔ Batch.storeError? repository.nodes
          (fun id =>
            repository.partitions.contains id || (repository.newPartitions batch).contains id)
          batch = some error := by
    unfold createPartitions newPartitions
    simp only [nonempty, Bool.false_eq_true, if_false]
    split <;> simp_all
  rw [refused, Batch.storeError?_eq_some_iff wellFormed]
  have among (node : Instance) (submitted : node ∈ batch) (rootless : node.parent = none)
      : (repository.partitions.contains node.id
          || (repository.newPartitions batch).contains node.id) = true
        ↔ True := by
    simpa using repository.registered_or_new submitted rootless
  exact ⟨fun first => first.of_registered among,
    fun first => first.of_registered fun node submitted rootless =>
      (among node submitted rootless).symm⟩

/-- A batch is stored exactly if it is well formed, owns only what is submitted or indexed, and
submits no roots but registered partitions; partitions are created from it exactly if it has a root
and all of this is true apart from the registrations. A well-formed batch is refused, by a creation
in spite of a root, for its first instance out of place, and this one for the first identifier in
its lists that is neither submitted nor indexed, or else for its missing registration.
-/
theorem submissions_are_admitted_iff (repository : Repository) (batch : List Instance)
    : ((∃ written, repository.store batch = .ok written)
        ↔ Batch.Storable repository.nodes (· ∈ repository.partitions) batch)
      ∧ ((∃ written, repository.createPartitions batch = .ok written)
          ↔ (∃ node ∈ batch, node.parent = none)
            ∧ Batch.Storable repository.nodes (fun _ => True) batch)
      ∧ (Batch.WellFormed batch
          → (∀ error,
              repository.store batch = .error error
              ↔ Batch.FirstMisplaced repository.nodes (· ∈ repository.partitions) batch error)
            ∧ ((∃ node ∈ batch, node.parent = none)
                → ∀ error,
                    repository.createPartitions batch = .error error
                    ↔ Batch.FirstMisplaced repository.nodes (fun _ => True) batch error)) :=
  ⟨repository.exists_store_eq_ok_iff batch, repository.exists_createPartitions_eq_ok_iff batch,
    fun wellFormed =>
      ⟨fun _ => store_eq_error_iff wellFormed,
        fun rooted _ => createPartitions_eq_error_iff wellFormed rooted⟩⟩

/-- A node of the tangled repository, and a new root with one submitted child that lists two unknown
children and is annotated by an unknown annotation.
-/
def misplacement : List Instance :=
  [ .withChildren "left" (some "root") ["shared"],
    (Instance.withChildren "attic" none ["box", "ghost", "phantom"]).annotateWith "echo",
    .withChildren "box" (some "attic") [] ]

/-- The batch is refused for the first of the unknown children, in either kind of submission. With
its child alone the root is refused for its registration when stored, and is not when created.
-/
theorem misplacement_is_refused
    : Batch.WellFormed misplacement
      ∧ (∃ node ∈ misplacement, node.parent = none)
      ∧ tangled.store misplacement = .error (.danglingContainment "attic" "ghost")
      ∧ tangled.createPartitions misplacement = .error (.danglingContainment "attic" "ghost")
      ∧ tangled.store [.withChildren "attic" none ["left"]]
        = .error (.unregisteredPartition "attic")
      ∧ ∃ written,
          tangled.createPartitions [.withChildren "attic" none ["left"]] = .ok written := by
  have wellFormed : Batch.WellFormed misplacement :=
    (Batch.shapeError?_eq_none_iff misplacement).mp rfl
  have rooted : ∃ node ∈ misplacement, node.parent = none :=
    ⟨_, List.mem_cons_of_mem _ List.mem_cons_self, rfl⟩
  have first (registered : String → Prop)
      : Batch.FirstMisplaced tangled.nodes registered misplacement
          (.danglingContainment "attic" "ghost") := by
    have lists : ["box", "ghost", "phantom"] ++ ["echo"]
        = ["box"] ++ "ghost" :: ["phantom", "echo"] :=
      rfl
    refine ⟨[_], _, [_], rfl, fun node member => ?_, .dangling lists ?_ ?_⟩
    · obtain rfl := List.mem_singleton.mp member
      exact ⟨by decide +kernel, fun rootless => nomatch rootless⟩
    · decide +kernel
    · decide +kernel
  have alone : Batch.WellFormed [.withChildren "attic" none ["left"]] :=
    (Batch.shapeError?_eq_none_iff _).mp rfl
  obtain ⟨-, -, refused⟩ := submissions_are_admitted_iff tangled misplacement
  obtain ⟨-, created, unregistered⟩ :=
    submissions_are_admitted_iff tangled [.withChildren "attic" none ["left"]]
  refine ⟨wellFormed, rooted, ?_, ?_, ?_, ?_⟩
  · exact ((refused wellFormed).1 _).mpr (first _)
  · exact ((refused wellFormed).2 rooted _).mpr (first _)
  · refine ((unregistered alone).1 _).mpr ⟨[], _, [], rfl, by simp, ?_⟩
    exact .unregistered (by decide +kernel) rfl (by decide +kernel)
  · refine created.mpr ⟨⟨_, List.mem_cons_self, rfl⟩, alone, ?_, fun _ _ _ => trivial⟩
    decide +kernel

end Repository

end ModelRepository
