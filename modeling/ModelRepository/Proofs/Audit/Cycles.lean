import ModelRepository.Proofs.Audit.Findings
import ModelRepository.Proofs.Repository.Commit

/-! The members of cycles of recorded parents, as an audit reports them.
The audit walks up from each node on its own, and the walk ends at the start, at an identifier that
it has met before or where the chain of recorded parents ends. Only the first of these is a cycle
through the start.
-/

namespace ModelRepository

open Std Relation

namespace Index

variable {index : Index} {id other : String}

/-- The chain of recorded parents from `id` ends: at an identifier that is not indexed, or at a
root.
-/
def ChainEnds (index : Index) (id : String) : Prop :=
  ∃ last,
    ReflTransGen index.RecordsParent id last
    ∧ (last ∉ index ∨ ∃ root, index[last]? = some root ∧ root.parent = none)

/-- The chain of recorded parents from `id` comes to a member of a cycle and not back from there. -/
def LeadsIntoCycle (index : Index) (id : String) : Prop :=
  ∃ member,
    ReflTransGen index.RecordsParent id member
    ∧ TransGen index.RecordsParent member member
    ∧ ¬ ReflTransGen index.RecordsParent member id

/-- Wherever the chain from a member of a cycle comes, it comes back from there. Witness: induction
on the chain; there is one way on from each identifier.
-/
theorem leads_back (cycle : TransGen index.RecordsParent id id)
    (chain : ReflTransGen index.RecordsParent id other)
    : ReflTransGen index.RecordsParent other id := by
  induction chain with
  | refl => exact .refl
  | @tail passed parent _ step ih =>
      have onward : TransGen index.RecordsParent passed id := .trans_right ih cycle
      obtain ⟨next, first, rest⟩ := TransGen.head'_iff.mp onward
      cases first.symm.trans step
      exact rest

/-- A member of a cycle is on a chain that neither ends nor leads into another cycle. -/
theorem not_chainEnds_of_cycle (cycle : TransGen index.RecordsParent id id)
    : ¬ index.ChainEnds id := by
  rintro ⟨last, chain, stops⟩
  have onward : TransGen index.RecordsParent last id := .trans_right (leads_back cycle chain) cycle
  obtain ⟨parent, step, -⟩ := TransGen.head'_iff.mp onward
  cases ((index.parentOf?_eq_none_iff last).mpr stops).symm.trans step

theorem not_leadsIntoCycle_of_cycle (cycle : TransGen index.RecordsParent id id)
    : ¬ index.LeadsIntoCycle id :=
  fun ⟨_, chain, _, apart⟩ => apart (leads_back cycle chain)

end Index

namespace Audit

-----------------------------------------------------------------------------------------
-- The walk up from one node
-----------------------------------------------------------------------------------------

/-- After `steps` steps the walk from `start` stands at `ancestor`, and `visited` is what it has
passed. It goes on from there unless it is back at the start, has been there before or finds no
recorded parent.
-/
inductive ChainWalk (index : Index) (start : String) : Nat → IdSet → String → Prop
  | first {parent : String} (recorded : index.RecordsParent start parent)
    : ChainWalk index start 0 ∅ parent
  | next {steps : Nat} {visited : IdSet} {ancestor parent : String}
    (walk : ChainWalk index start steps visited ancestor) (away : ancestor ≠ start)
    (fresh : ancestor ∉ visited) (recorded : index.RecordsParent ancestor parent)
    : ChainWalk index start (steps + 1) (visited.insert ancestor) parent

variable {index : Index} {start ancestor parent : String} {visited : IdSet} {steps : Nat}
  {node : Instance}

namespace ChainWalk

/-- What the audit decides about a node is decided wherever its walk stands, by induction on the
walk.
-/
theorem isCyclic_eq (walk : ChainWalk index start steps visited ancestor)
    (found : index[start]? = some node)
    : isCyclic index node start = returnsTo index start visited ancestor := by
  induction walk with
  | first recorded =>
      have parented := (Index.parentOf?_of_getElem? found).symm.trans recorded
      unfold isCyclic
      split <;> simp_all
  | next _ away fresh recorded ih => exact ih.trans (returnsTo_next away fresh recorded)

/-- A walk stands on the chain of recorded parents, and so does all that it has passed, away from
the start. Witness: induction on the walk, each step of which follows a recorded parent.
-/
theorem chain (walk : ChainWalk index start steps visited ancestor)
    : TransGen index.RecordsParent start ancestor
      ∧ ∀ id ∈ visited,
          id ≠ start
          ∧ TransGen index.RecordsParent start id
          ∧ TransGen index.RecordsParent id ancestor := by
  induction walk with
  | first recorded => exact ⟨.single recorded, by simp⟩
  | @next _ _ ancestor _ _ away _ recorded ih =>
      obtain ⟨reached, passed⟩ := ih
      refine ⟨reached.tail recorded, fun id member => ?_⟩
      rw [ExtTreeSet.mem_insert, Std.compare_eq_iff_eq] at member
      rcases member with rfl | earlier
      · exact ⟨away, reached, .single recorded⟩
      · obtain ⟨apart, before, after⟩ := passed id earlier
        exact ⟨apart, before, after.tail recorded⟩

theorem size_eq (walk : ChainWalk index start steps visited ancestor) : visited.size = steps := by
  induction walk with
  | first => simp
  | next _ _ fresh _ ih => simp [ExtTreeSet.size_insert, fresh, ih]

/-- A walk takes fewer steps than there are nodes: it has passed as many, all of them indexed, and
the start is none of them.
-/
theorem steps_lt (walk : ChainWalk index start steps visited ancestor) : steps < index.size := by
  obtain ⟨reached, passed⟩ := walk.chain
  have distinct : (start :: visited.toList).Nodup := by
    refine List.nodup_cons.mpr ⟨fun member => ?_, nodup_toList visited⟩
    exact (passed start (ExtTreeSet.mem_toList.mp member)).1 rfl
  have among : start :: visited.toList ⊆ index.keys := by
    intro id member
    refine ExtTreeMap.mem_keys.mpr ?_
    rcases List.mem_cons.mp member with rfl | earlier
    · exact Index.mem_of_chain reached
    · exact Index.mem_of_chain (passed id (ExtTreeSet.mem_toList.mp earlier)).2.2
  have bound := distinct.length_le_of_subset among
  rw [List.length_cons, ExtTreeSet.length_toList, walk.size_eq, ExtTreeMap.length_keys] at bound
  exact bound

/-- Every walk comes to a stop, by induction along the walk. -/
theorem exists_stop (walk : ChainWalk index start steps visited ancestor)
    : ∃ steps visited last,
        ChainWalk index start steps visited last ∧ ChainStops index start visited last := by
  induction visited, ancestor using walk_induction index start generalizing steps with
  | stop visited ancestor stops => exact ⟨steps, visited, ancestor, walk, stops⟩
  | next visited ancestor parent away fresh recorded ih =>
      exact ih (walk.next away fresh recorded)

/-- A walk that has stopped shows where its chain leads: back to the start, into a cycle that the
start is no member of, or to an end.
-/
theorem leads (walk : ChainWalk index start steps visited ancestor)
    (stops : ChainStops index start visited ancestor)
    : TransGen index.RecordsParent start start
      ∨ index.ChainEnds start
      ∨ index.LeadsIntoCycle start := by
  obtain ⟨reached, passed⟩ := walk.chain
  by_cases cycle : TransGen index.RecordsParent start start
  · exact Or.inl cycle
  · rcases stops with rfl | again | rootless
    · exact (cycle reached).elim
    · obtain ⟨-, -, around⟩ := passed ancestor again
      have apart (back : ReflTransGen index.RecordsParent ancestor start) : False :=
        cycle (reached.trans_left back)
      exact Or.inr (Or.inr ⟨ancestor, reached.to_reflTransGen, around, apart⟩)
    · exact Or.inr (Or.inl
        ⟨ancestor, reached.to_reflTransGen, (index.parentOf?_eq_none_iff ancestor).mp rootless⟩)

end ChainWalk

/-- A node is no member of a cycle exactly if its chain ends or leads into a cycle. Witness: the
walk up from the node, once it has stopped; a node without a recorded parent has no walk.
-/
theorem not_cycle_iff
    : ¬ TransGen index.RecordsParent start start
      ↔ index.ChainEnds start ∨ index.LeadsIntoCycle start := by
  constructor
  · intro acyclic
    cases recorded : index.parentOf? start with
    | none => exact Or.inl ⟨start, .refl, (index.parentOf?_eq_none_iff start).mp recorded⟩
    | some parent =>
        obtain ⟨steps, visited, last, walk, stops⟩ :=
          (ChainWalk.first recorded : ChainWalk index start 0 ∅ parent).exists_stop
        exact (walk.leads stops).resolve_left acyclic
  · rintro (ends | leads) cycle
    · exact Index.not_chainEnds_of_cycle cycle ends
    · exact Index.not_leadsIntoCycle_of_cycle cycle leads

-----------------------------------------------------------------------------------------
-- The report
-----------------------------------------------------------------------------------------

/-- The members of cycles in ascending order. -/
def cycleMembers (index : Index) : List String :=
  (index.toList.filter fun entry => isCyclic index entry.2 entry.1).map Prod.fst

theorem cycleIssues_eq_map (index : Index)
    : cycleIssues index = (cycleMembers index).map .cyclicHierarchy := by
  simp [cycleIssues, cycleMembers, ← List.filterMap_eq_filter, List.map_filterMap, Option.guard]

theorem nodup_cycleMembers (index : Index) : (cycleMembers index).Nodup := by
  have keys : (index.toList.map Prod.fst).Nodup := by
    rw [ExtTreeMap.map_fst_toList_eq_keys]
    exact ExtTreeMap.nodup_keys
  exact keys.sublist (List.filter_sublist.map Prod.fst)

theorem mem_cycleMembers_iff {id : String}
    : id ∈ cycleMembers index ↔ TransGen index.RecordsParent id id := by
  have reported : .cyclicHierarchy id ∈ cycleIssues index ↔ id ∈ cycleMembers index := by
    simp [cycleIssues_eq_map]
  rw [← reported, mem_cycleIssues_iff]
  simp

theorem isCyclic_iff_mem (found : index[start]? = some node)
    : isCyclic index node start = true ↔ start ∈ cycleMembers index :=
  (isCyclic_iff found).trans mem_cycleMembers_iff.symm

theorem kind_ne_of_mem_ownershipIssues {issue : Issue} (reported : issue ∈ ownershipIssues index)
    : issue.kind ≠ .cyclicHierarchy := by
  rcases mem_ownershipIssues_iff.mp reported with
    ⟨_, _, -, ⟨_, -, wrong⟩ | ⟨_, -, wrong⟩⟩ | sharing
  · rcases mem_childIssues_iff.mp wrong with ⟨-, rfl⟩ | ⟨_, -, -, rfl⟩ <;> simp [Issue.kind]
  · rcases mem_annotationIssues_iff.mp wrong with ⟨-, rfl⟩ | ⟨_, -, ⟨-, rfl⟩ | ⟨_, -, -, rfl⟩⟩ <;>
      simp [Issue.kind]
  · obtain ⟨_, -, rfl⟩ := mem_sharingIssues_iff.mp sharing
    simp [Issue.kind]

/-- Only the check of cycles reports a cycle, check by check. -/
theorem filter_audit_eq_cycleIssues (catalog : Catalog) (repository : Repository)
    : (repository.audit catalog).filter (·.kind = .cyclicHierarchy)
      = cycleIssues repository.nodes := by
  have apart {issues : List Issue} (others : ∀ issue ∈ issues, issue.kind ≠ .cyclicHierarchy)
      : issues.filter (·.kind = .cyclicHierarchy) = [] := by
    simpa using others
  have identifiers := apart fun issue (reported : issue ∈ identifierIssues repository.nodes) => by
    obtain ⟨_, -, -, rfl⟩ := mem_identifierIssues_iff.mp reported
    simp [Issue.kind]
  have ownership := apart fun issue (reported : issue ∈ ownershipIssues repository.nodes) =>
    kind_ne_of_mem_ownershipIssues reported
  have parents := apart fun issue (reported : issue ∈ repository.nodes.toList.flatMap
      fun entry => parentIssues repository.nodes entry.2 entry.1) => by
    obtain ⟨_, -, wrong⟩ := List.mem_flatMap.mp reported
    rcases mem_parentIssues_iff.mp wrong with ⟨_, -, ⟨-, rfl⟩ | ⟨_, -, -, rfl⟩⟩ <;>
      simp [Issue.kind]
  have cycles : (cycleIssues repository.nodes).filter (·.kind = .cyclicHierarchy)
      = cycleIssues repository.nodes := by
    simp [cycleIssues_eq_map, Issue.kind]
  have partitions := apart fun issue (reported : issue ∈ repository.partitions.toList.flatMap
      (partitionIssues catalog repository.nodes)) => by
    obtain ⟨_, -, wrong⟩ := List.mem_flatMap.mp reported
    rcases mem_partitionIssues_iff.mp wrong with
        ⟨-, rfl⟩ | ⟨_, -, ⟨_, -, rfl⟩ | ⟨-, rfl⟩⟩ <;>
      simp [Issue.kind]
  have reachability := apart fun issue
      (reported : issue ∈ reachabilityIssues repository.nodes repository.partitions) => by
    obtain ⟨_, -, -, rfl⟩ := mem_reachabilityIssues_iff.mp reported
    simp [Issue.kind]
  simp only [Repository.audit, List.filter_append, identifiers, ownership, parents, cycles,
    partitions, reachability, List.nil_append, List.append_nil]

end Audit

namespace Repository

/-- An audit reports the members of cycles of recorded parents, each of them once, and no other
node as cyclic: the chain of any other node ends, or it leads into a cycle that this node is no
member of. Every walk up from a node takes fewer steps than there are nodes and comes to a stop,
and there it is back at the start exactly if the node is reported.
-/
theorem cycle_members_are_reported_once (catalog : Catalog) (repository : Repository)
    : ∃ members : List String,
        members.Nodup
        ∧ (∀ id,
            id ∈ members
            ↔ id ∈ repository.nodes ∧ TransGen repository.nodes.RecordsParent id id)
        ∧ (repository.audit catalog).filter (·.kind = .cyclicHierarchy)
          = members.map .cyclicHierarchy
        ∧ (∀ id ∈ repository.nodes,
            id ∉ members ↔ repository.nodes.ChainEnds id ∨ repository.nodes.LeadsIntoCycle id)
        ∧ ∀ id node parent,
            repository.nodes[id]? = some node
            → node.parent = some parent
            → (∀ steps visited ancestor,
                Audit.ChainWalk repository.nodes id steps visited ancestor
                → steps < repository.nodes.size
                  ∧ Audit.isCyclic repository.nodes node id
                    = Audit.returnsTo repository.nodes id visited ancestor)
              ∧ ∃ steps visited last,
                  Audit.ChainWalk repository.nodes id steps visited last
                  ∧ Audit.ChainStops repository.nodes id visited last
                  ∧ (id ∈ members ↔ last = id) := by
  refine ⟨Audit.cycleMembers repository.nodes, Audit.nodup_cycleMembers repository.nodes, ?_, ?_,
    ?_, ?_⟩
  · intro id
    rw [Audit.mem_cycleMembers_iff]
    exact ⟨fun cycle => ⟨Index.mem_of_chain cycle, cycle⟩, And.right⟩
  · rw [Audit.filter_audit_eq_cycleIssues, Audit.cycleIssues_eq_map]
  · intro id _
    rw [Audit.mem_cycleMembers_iff, Audit.not_cycle_iff]
  · intro id node parent found parented
    have recorded : repository.nodes.RecordsParent id parent :=
      (Index.parentOf?_of_getElem? found).trans parented
    refine ⟨fun steps visited ancestor walk => ⟨walk.steps_lt, walk.isCyclic_eq found⟩, ?_⟩
    obtain ⟨steps, visited, last, walk, stops⟩ := (Audit.ChainWalk.first recorded).exists_stop
    refine ⟨steps, visited, last, walk, stops, ?_⟩
    rw [← Audit.isCyclic_iff_mem found, walk.isCyclic_eq found, Audit.returnsTo_of_stops stops]

/-- Two nodes that are each other's parents, one below them, one that is its own parent, one whose
parent is missing and a root.
-/
def whirl : Repository :=
  .ofParts { name := "whirl" } (IdSet.ofIds ["root"])
    (Index.ofInstances [
      .withChildren "root" none [],
      .withChildren "eddy" (some "pool") [],
      .withChildren "pool" (some "eddy") [],
      .withChildren "creek" (some "eddy") [],
      .withChildren "knot" (some "knot") [],
      .withChildren "stray" (some "nowhere") []])
    0 1

/-- The three members of cycles are reported, and the node below two of them is not: the walk up
from there stops within six steps, and not where it started.
-/
theorem whirl_members_are_reported
    : ∃ members : List String,
        members.Nodup
        ∧ (∀ id, id ∈ members ↔ id ∈ ["eddy", "knot", "pool"])
        ∧ (whirl.audit .standard).filter (·.kind = .cyclicHierarchy)
          = members.map .cyclicHierarchy
        ∧ (whirl.nodes.ChainEnds "creek" ∨ whirl.nodes.LeadsIntoCycle "creek")
        ∧ whirl.nodes["creek"]? = some (.withChildren "creek" (some "eddy") [])
        ∧ ∃ steps visited last,
            steps < 6
            ∧ Audit.ChainWalk whirl.nodes "creek" steps visited last
            ∧ last ≠ "creek" := by
  obtain ⟨members, unique, cyclic, reported, others, walks⟩ :=
    cycle_members_are_reported_once .standard whirl
  have found : Audit.cycleMembers whirl.nodes = ["eddy", "knot", "pool"] := by decide +kernel
  have listed (id : String) : id ∈ members ↔ id ∈ ["eddy", "knot", "pool"] := by
    have known : ∀ id ∈ ["eddy", "knot", "pool"], id ∈ whirl.nodes := by decide +kernel
    rw [cyclic, ← Audit.mem_cycleMembers_iff, found]
    exact and_iff_right_of_imp (known id)
  have unlisted : "creek" ∉ members := by simp [listed]
  have creek : whirl.nodes["creek"]? = some (.withChildren "creek" (some "eddy") []) := by
    decide +kernel
  obtain ⟨bounded, steps, visited, last, walk, -, back⟩ := walks "creek" _ "eddy" creek rfl
  have few : steps < whirl.nodes.size := (bounded steps visited last walk).1
  exact ⟨members, unique, listed, reported,
    (others "creek" (Index.mem_of_getElem? creek)).mp unlisted, creek, steps, visited, last, few,
    walk, mt back.mpr unlisted⟩

end Repository

end ModelRepository
