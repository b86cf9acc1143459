import Mathlib
import ModelRepository.Proofs.Repository.Consistency
import ModelRepository.Proofs.Repository.History
import ModelRepository.Proofs.Repository.Submission

/-! Owners and partitions after any history of calls on a repository that started empty.
A write checks that listed identifiers exist and that roots are registered; whether lists and
recorded parents agree is left to the client, and to audits. Along histories whose batches agree
with the repository they meet, every node has the one owner it records and the nodes without a
parent are the partitions.
-/

namespace ModelRepository

open Std

theorem Batch.agrees_nil (index : Index) (partitions : IdSet) : Agrees index partitions [] := by
  refine ⟨?_, ?_⟩ <;> exact fun _ member => nomatch member

namespace Repository

/-- A node that records a parent stands in exactly one slot of the index, and that slot belongs to
the parent, which is indexed; a node without a recorded parent stands in no slot.
-/
structure SinglyOwned (repository : Repository) : Prop where
  parented
    : ∀ (id : String) (node : Instance) (parent : String),
        repository.nodes[id]? = some node
        → node.parent = some parent
        → Audit.owners repository.nodes id = [parent] ∧ parent ∈ repository.nodes
  parentless
    : ∀ (id : String) (node : Instance),
        repository.nodes[id]? = some node
        → node.parent = none
        → Audit.owners repository.nodes id = []

/-- The partitions are the indexed nodes that record no parent, and a deletion of partitions leaves
none of them indexed.
-/
structure RootsRegistered (repository : Repository) : Prop where
  registered
    : ∀ id,
        id ∈ repository.partitions
        ↔ ∃ node, repository.nodes[id]? = some node ∧ node.parent = none
  deleted
    : ∀ ids after changes,
        repository.deletePartitions ids = .ok (after, changes) → ∀ id ∈ ids, id ∉ after.nodes

/-- A batch that agrees with the repository and lists nothing twice. -/
structure Places (repository : Repository) (batch : List Instance) : Prop where
  agrees : Batch.Agrees repository.nodes repository.partitions batch
  slots : ∀ node ∈ batch, node.ownedIds.Nodup

variable {before written repository : Repository} {request : Request} {changes : Changes}
  {id parent owner : String} {node : Instance}

-----------------------------------------------------------------------------------------
-- Histories of agreeing batches
-----------------------------------------------------------------------------------------

/-- An accepted write of an agreeing batch keeps the index linked, by its merge and its sweep. -/
theorem linked_perform (linked : before.nodes.Linked before.partitions)
    (agrees : Batch.Agrees before.nodes before.partitions request.batch)
    (done : before.perform request = .ok (written, changes))
    : written.nodes.Linked written.partitions := by
  obtain ⟨accepted, effect⟩ := commits_of_perform done
  have sweep := effect.sweep
  rw [← effect.registry] at sweep
  refine Index.Linked.sweep ?_ sweep
  refine linked.merge agrees accepted.storable.unique fun id registered => ?_
  rw [effect.registry] at registered
  exact request.mem_partitionsAfter registered

/-- An accepted write of a batch that lists nothing twice leaves no list with repetitions. -/
theorem distinct_perform (distinct : before.nodes.Distinct)
    (slots : ∀ node ∈ request.batch, node.ownedIds.Nodup)
    (done : before.perform request = .ok (written, changes))
    : written.nodes.Distinct := by
  obtain ⟨accepted, effect⟩ := commits_of_perform done
  exact (distinct.merge slots accepted.storable.unique).sweep effect.sweep

/-- Every history of agreeing batches leads to a linked index, write by write. -/
theorem run_linked (configuration : Configuration) {calls : List Call}
    (submits : (create configuration).Submits
      (fun repository => Batch.Agrees repository.nodes repository.partitions) calls)
    : ((create configuration).run calls).nodes.Linked
        ((create configuration).run calls).partitions :=
  run_induction_of_submits
    (motive := fun repository => repository.nodes.Linked repository.partitions)
    (create configuration) calls Index.linked_empty submits
    (fun _ _ _ _ linked agrees done => linked_perform linked agrees done)
    (fun _ _ linked => linked)

/-- Every history of batches that list nothing twice leads to an index without repetitions. -/
theorem run_distinct (configuration : Configuration) {calls : List Call}
    (submits : (create configuration).Submits
      (fun _ batch => ∀ node ∈ batch, node.ownedIds.Nodup) calls)
    : ((create configuration).run calls).nodes.Distinct :=
  run_induction_of_submits (motive := fun repository => repository.nodes.Distinct)
    (create configuration) calls (by simp [create, Index.Distinct]) submits
    (fun _ _ _ _ distinct slots done => distinct_perform distinct slots done)
    (fun _ _ distinct => distinct)

-----------------------------------------------------------------------------------------
-- Particular histories
-----------------------------------------------------------------------------------------

/-- Two partitions that list one node. -/
def sharing : List Call :=
  [ .write (.createPartitions [
      .withChildren "p" none ["a"],
      .withChildren "q" none ["a"],
      .withChildren "a" (some "p") []]) ]

/-- A partition that lists one node twice. -/
def repeating : List Call :=
  [ .write (.createPartitions [
      .withChildren "p" none ["a", "a"],
      .withChildren "a" (some "p") []]) ]

/-- A partition that is stored again with a parent that does not list it. -/
def demoting : List Call :=
  [ .write (.createPartitions [.withChildren "p" none [], .withChildren "q" none []]),
    .write (.store [.withChildren "q" (some "p") []]) ]

/-- A partition that lists another one, which records no parent. -/
def adopting : List Call :=
  [ .write (.createPartitions [.withChildren "p" none [], .withChildren "q" none []]),
    .write (.store [.withChildren "p" none ["q"]]) ]

/-- Fills the tidy repository, allocates identifiers and moves a node. The first call is rejected,
since the node is not there yet.
-/
def settling : List Call :=
  [ .write (.store moving),
    .write (.createPartitions tidyInstances),
    .allocate 2,
    .write (.store moving) ]

/-- The tidy instances fill an empty repository up to the tidy one: their partition reaches all of
them, so nothing is swept.
-/
theorem after_createPartitions_tidyInstances
    : (create { name := "tidy" }).after (.write (.createPartitions tidyInstances)) = tidy := by
  obtain ⟨⟨written, changes⟩, created⟩
      : ∃ written,
          (create { name := "tidy" }).perform (.createPartitions tidyInstances) = .ok written :=
    ⟨_, rfl⟩
  obtain ⟨-, effect⟩ := commits_of_perform created
  have registry : written.partitions = tidy.partitions := effect.registry
  have nodes : written.nodes = tidy.nodes := by
    refine effect.sweep.unique ?_
    rw [← effect.registry, registry]
    have merged : (create { name := "tidy" }).nodes.merge tidyInstances = tidy.nodes :=
      Index.empty_merge tidyInstances
    intro id node
    rw [Request.batch, merged]
    exact ⟨fun found => ⟨found, tidy_orderly.reached id (Index.mem_of_getElem? found)⟩, And.left⟩
  simp only [after, created]
  exact effect.after_eq nodes (effect.registry.symm.trans registry) rfl rfl rfl

/-- Every accepted batch of that history agrees with the repository that it meets. -/
theorem settling_submits : (create { name := "tidy" }).Submits Places settling := by
  refine ⟨?_, ?_, ?_, ?_, trivial⟩
  · rintro _ _ _ ⟨⟩ ⟨⟩
  · rintro _ _ _ ⟨⟩ _
    exact ⟨by decide +kernel, by decide +kernel⟩
  · rintro _ _ _ ⟨⟩
  · rintro _ _ _ ⟨⟩ _
    have tidied : ((create { name := "tidy" }).after (.write (.store moving))).after
        (.write (.createPartitions tidyInstances)) = tidy :=
      after_createPartitions_tidyInstances
    have agrees : Batch.Agrees tidy.nodes tidy.partitions moving := by decide +kernel
    have slots : ∀ node ∈ moving, node.ownedIds.Nodup := by decide +kernel
    rw [tidied]
    obtain ⟨_, _, impossible, -⟩ | ⟨_, counted⟩ := tidy.after_cases (.allocate 2)
    · cases impossible
    · rw [counted]
      exact ⟨agrees, slots⟩

-----------------------------------------------------------------------------------------
-- Owners
-----------------------------------------------------------------------------------------

theorem Grounded.reaches (grounded : repository.Grounded) (indexed : id ∈ repository.nodes)
    : Reaches repository.nodes repository.partitions id :=
  (mem_reachable_iff _ _ id).mp ((grounded.reached id).mp indexed)

/-- Whatever is indexed without being a partition stands in a slot of an indexed owner, the last
one on a path from a partition.
-/
theorem Grounded.exists_owner (grounded : repository.Grounded) (indexed : id ∈ repository.nodes)
    (unregistered : id ∉ repository.partitions)
    : ∃ owner ∈ repository.nodes, owner ∈ Audit.owners repository.nodes id := by
  cases grounded.reaches indexed with
  | root registered _ => exact (unregistered registered).elim
  | @owned owner _ before lists _ =>
      exact ⟨owner, before.indexed, (Audit.mem_owners_iff _ id owner).mpr lists⟩

/-- In a linked index without repetitions, nodes that the partitions reach have the one owner they
record. Witness: the owner lists the node, whatever lists it is that owner, and no two slots hold
the same node.
-/
theorem singlyOwned_of_linked (grounded : repository.Grounded)
    (linked : repository.nodes.Linked repository.partitions)
    (distinct : repository.nodes.Distinct)
    : repository.SinglyOwned := by
  have recorded {id owner : String} (held : owner ∈ Audit.owners repository.nodes id)
      : repository.nodes.parentOf? id = some owner := by
    obtain ⟨holder, found, lists⟩ :=
      (repository.nodes.mem_ownedIds_iff owner id).mp ((Audit.mem_owners_iff _ id owner).mp held)
    exact linked.owned owner holder found id lists
  refine ⟨?_, ?_⟩
  · intro id node parent stored parented
    have records := (Index.parentOf?_of_getElem? stored).trans parented
    have lists := linked.listed (grounded.reaches (Index.mem_of_getElem? stored)) records
    have held := (Audit.mem_owners_iff _ id parent).mpr lists
    have single := linked.unshared distinct id
    obtain ⟨holder, found, -⟩ := (repository.nodes.mem_ownedIds_iff parent id).mp lists
    refine ⟨?_, Index.mem_of_getElem? found⟩
    obtain ⟨owner, only⟩ : ∃ owner, Audit.owners repository.nodes id = [owner] :=
      List.length_eq_one_iff.mp (by have := List.length_pos_of_mem held; omega)
    rw [only, List.mem_singleton] at held
    rw [only, held]
  · intro id node stored rootless
    refine List.eq_nil_iff_forall_not_mem.mpr fun owner held => ?_
    cases (recorded held).symm.trans ((Index.parentOf?_of_getElem? stored).trans rootless)

/-- Along histories whose batches agree with the repository and list nothing twice, every node has
the one owner it records, and none if it records none. Along any history, whatever is indexed
without being a partition has an indexed owner.
-/
theorem run_singlyOwned (configuration : Configuration) (calls : List Call)
    : ((create configuration).Submits Places calls
        → ((create configuration).run calls).SinglyOwned)
      ∧ ∀ id ∈ ((create configuration).run calls).nodes,
          id ∉ ((create configuration).run calls).partitions
          → ∃ owner ∈ ((create configuration).run calls).nodes,
              owner ∈ Audit.owners ((create configuration).run calls).nodes id := by
  have grounded := run_grounded configuration calls
  refine ⟨fun submits => ?_, fun _ indexed => grounded.exists_owner indexed⟩
  exact singlyOwned_of_linked grounded
    (run_linked configuration (submits.mono fun _ _ places => places.agrees))
    (run_distinct configuration (submits.mono fun _ _ places => places.slots))

/-- A node with two owners, a node that its owner lists twice, and a partition that is given a
parent without being listed: batches that fail to agree in one way each are accepted all the same.
-/
theorem run_not_singlyOwned
    : ¬ ((create { name := "shared" }).run sharing).SinglyOwned
      ∧ ¬ ((create { name := "repeated" }).run repeating).SinglyOwned
      ∧ ¬ ((create { name := "demoted" }).run demoting).SinglyOwned := by
  refine ⟨fun single => ?_, fun single => ?_, fun single => ?_⟩
  · have stored : ((create { name := "shared" }).run sharing).nodes["a"]?
        = some (.withChildren "a" (some "p") []) := by cbv
    have twice : Audit.owners ((create { name := "shared" }).run sharing).nodes "a"
        = ["p", "q"] := by cbv
    have once := (single.parented "a" _ "p" stored rfl).1
    simp [twice] at once
  · have stored : ((create { name := "repeated" }).run repeating).nodes["a"]?
        = some (.withChildren "a" (some "p") []) := by cbv
    have twice : Audit.owners ((create { name := "repeated" }).run repeating).nodes "a"
        = ["p", "p"] := by cbv
    have once := (single.parented "a" _ "p" stored rfl).1
    simp [twice] at once
  · have stored : ((create { name := "demoted" }).run demoting).nodes["q"]?
        = some (.withChildren "q" (some "p") []) := by cbv
    have nowhere : Audit.owners ((create { name := "demoted" }).run demoting).nodes "q" = [] := by
      cbv
    have once := (single.parented "q" _ "p" stored rfl).1
    simp [nowhere] at once

/-- After a history that fills a repository and moves a node, every node has one owner. -/
theorem settling_singlyOwned
    : (create { name := "tidy" }).Submits Places settling
      ∧ ((create { name := "tidy" }).run settling).SinglyOwned :=
  ⟨settling_submits, (run_singlyOwned { name := "tidy" } settling).1 settling_submits⟩

-----------------------------------------------------------------------------------------
-- Partitions
-----------------------------------------------------------------------------------------

/-- In a linked index whose nodes are reached, the partitions are the nodes without a parent. -/
theorem Grounded.mem_partitions_iff (grounded : repository.Grounded)
    (linked : repository.nodes.Linked repository.partitions) (id : String)
    : id ∈ repository.partitions
      ↔ ∃ node, repository.nodes[id]? = some node ∧ node.parent = none := by
  constructor
  · intro registered
    obtain ⟨indexed, rootless⟩ := linked.roots id registered
    obtain ⟨node, stored⟩ := (repository.nodes.mem_iff_exists id).mp indexed
    exact ⟨node, stored, (Index.parentOf?_of_getElem? stored).symm.trans rootless⟩
  · rintro ⟨node, stored, rootless⟩
    exact linked.registered (grounded.reaches (Index.mem_of_getElem? stored))
      ((Index.parentOf?_of_getElem? stored).trans rootless)

/-- In a linked index deleted partitions go. Witness: the deletion leaves a linked index too, in
which a former partition that was still indexed would be a partition.
-/
theorem not_mem_of_deletePartitions
    (linked : repository.nodes.Linked repository.partitions) {ids : List String}
    (done : repository.deletePartitions ids = .ok (written, changes)) (listed : id ∈ ids)
    : id ∉ written.nodes := by
  have performed : repository.perform (.deletePartitions ids) = .ok (written, changes) := done
  obtain ⟨registered, -⟩ := commits_of_perform performed
  obtain ⟨registry, sweep⟩ := isSweepOf_of_deletePartitions done
  have still := linked_perform linked (Batch.agrees_nil _ _) performed
  intro kept
  have reached := sweep.mem_iff.mp kept
  have rootless : written.nodes.parentOf? id = none :=
    (sweep.parentOf?_eq reached).trans (linked.roots id (registered id listed)).2
  have member := still.registered (sweep.mem_iff_reaches.mp kept) rootless
  exact ((registry id).mp member).2 listed

/-- Along histories whose batches agree with the repository, the partitions are the nodes that
record no parent, and deleted ones go. Along any history partitions are indexed, a node without a
parent is a partition or has an indexed owner, and a deleted partition is none any more and goes
unless the others reach it.
-/
theorem run_rootsRegistered (configuration : Configuration) (calls : List Call)
    : ((create configuration).Submits
          (fun repository => Batch.Agrees repository.nodes repository.partitions) calls
        → ((create configuration).run calls).RootsRegistered)
      ∧ (∀ id ∈ ((create configuration).run calls).partitions,
          id ∈ ((create configuration).run calls).nodes)
      ∧ (∀ id node,
          ((create configuration).run calls).nodes[id]? = some node
          → node.parent = none
          → id ∈ ((create configuration).run calls).partitions
            ∨ ∃ owner ∈ ((create configuration).run calls).nodes,
                owner ∈ Audit.owners ((create configuration).run calls).nodes id)
      ∧ ∀ ids after changes,
          ((create configuration).run calls).deletePartitions ids = .ok (after, changes)
          → ∀ id ∈ ids,
              id ∉ after.partitions
              ∧ (id ∈ after.nodes
                ↔ Reaches ((create configuration).run calls).nodes after.partitions id) := by
  have grounded := run_grounded configuration calls
  refine ⟨fun submits => ?_, grounded.registered, ?_, ?_⟩
  · have linked := run_linked configuration submits
    exact ⟨grounded.mem_partitions_iff linked,
      fun _ _ _ done _ => not_mem_of_deletePartitions linked done⟩
  · intro id node stored _
    by_cases registered : id ∈ ((create configuration).run calls).partitions
    · exact Or.inl registered
    · exact Or.inr (grounded.exists_owner (Index.mem_of_getElem? stored) registered)
  · intro ids after changes done id listed
    obtain ⟨registry, sweep⟩ := isSweepOf_of_deletePartitions done
    exact ⟨fun member => ((registry id).mp member).2 listed, sweep.mem_iff⟩

/-- A partition that is given a parent stays a partition, and one that another node lists stays
indexed when it is deleted.
-/
theorem run_not_rootsRegistered
    : ¬ ((create { name := "demoted" }).run demoting).RootsRegistered
      ∧ ¬ ((create { name := "adopted" }).run adopting).RootsRegistered := by
  refine ⟨fun roots => ?_, fun roots => ?_⟩
  · have registered : ((create { name := "demoted" }).run demoting).partitions.contains "q"
        = true := by cbv
    have parented : ((create { name := "demoted" }).run demoting).nodes.parentOf? "q"
        = some "p" := by cbv
    obtain ⟨node, stored, rootless⟩ :=
      (roots.registered "q").mp (ExtTreeSet.contains_iff_mem.mp registered)
    rw [Index.parentOf?_of_getElem? stored, rootless] at parented
    cases parented
  · have kept : (((create { name := "adopted" }).run adopting).deletePartitions
        ["q"]).toOption.map (fun written => written.1.nodes.contains "q")
          = some true := by cbv
    cases done : ((create { name := "adopted" }).run adopting).deletePartitions ["q"] with
    | error refusal => simp [done, Except.toOption] at kept
    | ok written =>
        simp only [done, Except.toOption, Option.map_some, Option.some.injEq] at kept
        exact roots.deleted ["q"] written.1 written.2 done "q" List.mem_cons_self
          (ExtTreeMap.contains_iff_mem.mp kept)

/-- After a history that fills a repository and moves a node, the partition is the only node without
a parent, and it goes when it is deleted.
-/
theorem settling_rootsRegistered
    : (create { name := "tidy" }).Submits
          (fun repository => Batch.Agrees repository.nodes repository.partitions) settling
        ∧ ((create { name := "tidy" }).run settling).RootsRegistered := by
  have submits := settling_submits.mono fun _ _ places => places.agrees
  exact ⟨submits, (run_rootsRegistered { name := "tidy" } settling).1 submits⟩

end Repository

end ModelRepository
