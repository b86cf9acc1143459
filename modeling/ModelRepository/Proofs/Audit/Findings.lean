import ModelRepository.Proofs.Audit.ParentChains
import ModelRepository.Proofs.Grouping
import ModelRepository.Proofs.Index.Reachability

/-! What an audit reports. `Audit.Finding` says of each issue, rule by rule, when a repository is
in breach, without any of the walks and groupings of the audit; an audit reports exactly these
issues.
-/

namespace ModelRepository

open Std Relation

namespace Audit

-----------------------------------------------------------------------------------------
-- Breaches
-----------------------------------------------------------------------------------------

/-- The owners whose slots hold `id`, slot by slot. -/
def owners (index : Index) (id : String) : List String :=
  ((slots index).filter (·.1 = id)).map Prod.snd

/-- The breaches of the rules that hold at rest. -/
inductive Finding (catalog : Catalog) (repository : Repository) : Issue → Prop
  | invalidId {id} (indexed : id ∈ repository.nodes) (invalid : isValidId id = false)
    : Finding catalog repository (.invalidId id)
  | danglingChild {owner holder child} (found : repository.nodes[owner]? = some holder)
    (lists : child ∈ holder.childIds) (missing : child ∉ repository.nodes)
    : Finding catalog repository (.danglingChild owner child)
  | danglingAnnotationId {owner holder annotationId}
    (found : repository.nodes[owner]? = some holder)
    (lists : annotationId ∈ holder.annotations) (missing : annotationId ∉ repository.nodes)
    : Finding catalog repository (.danglingAnnotationId owner annotationId)
  | childParent {owner holder child node} (found : repository.nodes[owner]? = some holder)
    (lists : child ∈ holder.childIds) (stored : repository.nodes[child]? = some node)
    (differs : node.parent ≠ some owner)
    : Finding catalog repository (.childParent owner child node.parent)
  | annotationParent {owner holder annotationId node}
    (found : repository.nodes[owner]? = some holder)
    (lists : annotationId ∈ holder.annotations)
    (stored : repository.nodes[annotationId]? = some node) (differs : node.parent ≠ some owner)
    : Finding catalog repository (.annotationParent owner annotationId node.parent)
  | annotationHost {owner holder annotationId node host}
    (found : repository.nodes[owner]? = some holder)
    (lists : annotationId ∈ holder.annotations)
    (stored : repository.nodes[annotationId]? = some node) (annotates : node.annotated = some host)
    (differs : host ≠ owner)
    : Finding catalog repository (.annotationHost owner annotationId host)
  | sharedOwnership {id} (shared : 1 < (owners repository.nodes id).length)
    : Finding catalog repository (.sharedOwnership id (owners repository.nodes id))
  | missingParent {id node parent} (found : repository.nodes[id]? = some node)
    (recorded : node.parent = some parent) (missing : parent ∉ repository.nodes)
    : Finding catalog repository (.missingParent id parent)
  | parentDoesNotContain {id node parent holder} (found : repository.nodes[id]? = some node)
    (recorded : node.parent = some parent) (stored : repository.nodes[parent]? = some holder)
    (unlisted : id ∉ holder.ownedIds)
    : Finding catalog repository (.parentDoesNotContain id parent)
  | cyclicHierarchy {id} (cycle : TransGen repository.nodes.RecordsParent id id)
    : Finding catalog repository (.cyclicHierarchy id)
  | missingPartitionRoot {id} (registered : id ∈ repository.partitions)
    (missing : id ∉ repository.nodes)
    : Finding catalog repository (.missingPartitionRoot id)
  | partitionHasParent {id root parent} (registered : id ∈ repository.partitions)
    (found : repository.nodes[id]? = some root) (recorded : root.parent = some parent)
    : Finding catalog repository (.partitionHasParent id parent)
  | notPartitionCapable {id root} (registered : id ∈ repository.partitions)
    (found : repository.nodes[id]? = some root)
    (incapable : catalog.partitionCapable? root.classifier = some false)
    : Finding catalog repository (.notPartitionCapable id root.classifier)
  | unreachable {id} (indexed : id ∈ repository.nodes)
    (unreached : ¬ Reaches repository.nodes repository.partitions id)
    : Finding catalog repository (.unreachable id)

-----------------------------------------------------------------------------------------
-- The checks, one after the other
-----------------------------------------------------------------------------------------

variable {index : Index} {catalog : Catalog} {repository : Repository} {issue : Issue}

theorem mem_identifierIssues_iff
    : issue ∈ identifierIssues index
      ↔ ∃ id, id ∈ index ∧ isValidId id = false ∧ issue = .invalidId id := by
  simp only [identifierIssues, List.mem_map, List.mem_filter, ExtTreeMap.mem_keys,
    Bool.not_eq_true', and_assoc, @eq_comm _ issue]

theorem mem_childIssues_iff {owner child : String}
    : issue ∈ childIssues index owner child
      ↔ (child ∉ index ∧ issue = .danglingChild owner child)
        ∨ ∃ node,
            index[child]? = some node
            ∧ node.parent ≠ some owner
            ∧ issue = .childParent owner child node.parent := by
  unfold childIssues
  split
  · rename_i missing
    simp [index.not_mem_of_getElem?_eq_none missing]
  · rename_i node found
    have indexed : child ∈ index := Index.mem_of_getElem? found
    split <;> simp_all

theorem mem_annotationIssues_iff {owner annotationId : String}
    : issue ∈ annotationIssues index owner annotationId
      ↔ (annotationId ∉ index ∧ issue = .danglingAnnotationId owner annotationId)
        ∨ ∃ node,
            index[annotationId]? = some node
            ∧ ((node.parent ≠ some owner
                  ∧ issue = .annotationParent owner annotationId node.parent)
                ∨ ∃ host,
                    node.annotated = some host
                    ∧ host ≠ owner
                    ∧ issue = .annotationHost owner annotationId host) := by
  unfold annotationIssues
  split
  · rename_i missing
    simp [index.not_mem_of_getElem?_eq_none missing]
  · rename_i node found
    have indexed : annotationId ∈ index := Index.mem_of_getElem? found
    cases annotates : node.annotated with
    | none =>
        simp only [indexed, not_true_eq_false, false_and, false_or, found, Option.some.injEq]
        split <;> simp_all
    | some host =>
        simp only [indexed, not_true_eq_false, false_and, false_or, found, Option.some.injEq]
        split <;> split <;> simp_all

theorem mem_sharingIssues_iff
    : issue ∈ sharingIssues index
      ↔ ∃ id, 1 < (owners index id).length ∧ issue = .sharedOwnership id (owners index id) := by
  simp only [sharingIssues, List.mem_filterMap, Prod.exists,
    ExtTreeMap.mem_toList_iff_getElem?_eq_some, getElem?_group]
  constructor
  · rintro ⟨id, holders, grouped, reported⟩
    split at grouped
    · cases grouped
      split at reported
      · rename_i shared
        exact ⟨id, shared, (Option.some.inj reported).symm⟩
      · cases reported
    · cases grouped
  · rintro ⟨id, shared, rfl⟩
    refine ⟨id, owners index id, ?_, by simp [shared]⟩
    have occurs : id ∈ (slots index).map Prod.fst := by
      have nonempty : owners index id ≠ [] := by
        intro empty
        simp [empty] at shared
      obtain ⟨owner, member⟩ := List.exists_mem_of_ne_nil _ nonempty
      obtain ⟨pair, held, -⟩ := List.mem_map.mp member
      obtain ⟨slot, same⟩ := List.mem_filter.mp held
      exact List.mem_map.mpr ⟨pair, slot, by simpa using same⟩
    simp [occurs, owners]

theorem mem_parentIssues_iff {node : Instance} {id : String}
    : issue ∈ parentIssues index node id
      ↔ ∃ parent,
          node.parent = some parent
          ∧ ((parent ∉ index ∧ issue = .missingParent id parent)
              ∨ ∃ holder,
                  index[parent]? = some holder
                  ∧ id ∉ holder.ownedIds
                  ∧ issue = .parentDoesNotContain id parent) := by
  unfold parentIssues
  split
  · rename_i rootless
    simp [rootless]
  · rename_i parent recorded
    split
    · rename_i missing
      simp [recorded, index.not_mem_of_getElem?_eq_none missing]
    · rename_i holder found
      have indexed : parent ∈ index := Index.mem_of_getElem? found
      have lists := holder.lists_iff id
      split <;> simp_all

theorem mem_partitionIssues_iff {partition : String}
    : issue ∈ partitionIssues catalog index partition
      ↔ (partition ∉ index ∧ issue = .missingPartitionRoot partition)
        ∨ ∃ root,
            index[partition]? = some root
            ∧ ((∃ parent,
                  root.parent = some parent ∧ issue = .partitionHasParent partition parent)
                ∨ (catalog.partitionCapable? root.classifier = some false
                    ∧ issue = .notPartitionCapable partition root.classifier)) := by
  unfold partitionIssues
  split
  · rename_i missing
    simp [index.not_mem_of_getElem?_eq_none missing]
  · rename_i root found
    have indexed : partition ∈ index := Index.mem_of_getElem? found
    cases recorded : root.parent with
    | none =>
        simp only [indexed, not_true_eq_false, false_and, false_or, found, Option.some.injEq]
        split <;> simp_all
    | some parent =>
        simp only [indexed, not_true_eq_false, false_and, false_or, found, Option.some.injEq]
        split <;> simp_all

theorem mem_reachabilityIssues_iff {partitions : IdSet}
    : issue ∈ reachabilityIssues index partitions
      ↔ ∃ id, id ∈ index ∧ ¬ Reaches index partitions id ∧ issue = .unreachable id := by
  simp only [reachabilityIssues, List.mem_map, List.mem_filter, ExtTreeMap.mem_keys,
    Bool.not_eq_true', IdSet.contains_eq_false_iff, mem_reachable_iff, and_assoc,
    @eq_comm _ issue]

theorem mem_cycleIssues_iff
    : issue ∈ cycleIssues index
      ↔ ∃ id, TransGen index.RecordsParent id id ∧ issue = .cyclicHierarchy id := by
  simp only [cycleIssues, List.mem_filterMap, Prod.exists,
    ExtTreeMap.mem_toList_iff_getElem?_eq_some]
  constructor
  · rintro ⟨id, node, found, reported⟩
    split at reported
    · rename_i cyclic
      exact ⟨id, (isCyclic_iff found).mp cyclic, (Option.some.inj reported).symm⟩
    · cases reported
  · rintro ⟨id, cycle, rfl⟩
    obtain ⟨parent, step, -⟩ := TransGen.head'_iff.mp cycle
    obtain ⟨node, found, -⟩ := (index.parentOf?_eq_some_iff id parent).mp step
    exact ⟨id, node, found, by simp [(isCyclic_iff found).mpr cycle]⟩

theorem mem_ownershipIssues_iff
    : issue ∈ ownershipIssues index
      ↔ (∃ owner holder,
          index[owner]? = some holder
          ∧ ((∃ child ∈ holder.childIds, issue ∈ childIssues index owner child)
              ∨ ∃ annotationId ∈ holder.annotations,
                  issue ∈ annotationIssues index owner annotationId))
        ∨ issue ∈ sharingIssues index := by
  simp only [ownershipIssues, listIssues, List.mem_append, List.mem_flatMap, Prod.exists,
    ExtTreeMap.mem_toList_iff_getElem?_eq_some]

/-- An audit reports nothing but breaches, check by check. -/
theorem finding_of_mem_audit (reported : issue ∈ repository.audit catalog)
    : Finding catalog repository issue := by
  simp only [Repository.audit, List.mem_append, List.mem_flatMap, Prod.exists,
    ExtTreeMap.mem_toList_iff_getElem?_eq_some, ExtTreeSet.mem_toList] at reported
  rcases reported with
    ((((identifier | ownership) | ⟨id, node, found, parent⟩) | cycle)
      | ⟨id, registered, partition⟩) | reachability
  · obtain ⟨id, indexed, invalid, rfl⟩ := mem_identifierIssues_iff.mp identifier
    exact .invalidId indexed invalid
  · rcases mem_ownershipIssues_iff.mp ownership with
      ⟨owner, holder, found, ⟨child, lists, wrong⟩ | ⟨annotationId, lists, wrong⟩⟩ | sharing
    · rcases mem_childIssues_iff.mp wrong with ⟨missing, rfl⟩ | ⟨node, stored, differs, rfl⟩
      · exact .danglingChild found lists missing
      · exact .childParent found lists stored differs
    · rcases mem_annotationIssues_iff.mp wrong with
        ⟨missing, rfl⟩ | ⟨node, stored, ⟨differs, rfl⟩ | ⟨host, annotates, differs, rfl⟩⟩
      · exact .danglingAnnotationId found lists missing
      · exact .annotationParent found lists stored differs
      · exact .annotationHost found lists stored annotates differs
    · obtain ⟨id, shared, rfl⟩ := mem_sharingIssues_iff.mp sharing
      exact .sharedOwnership shared
  · rcases mem_parentIssues_iff.mp parent with
      ⟨parent, recorded, ⟨missing, rfl⟩ | ⟨holder, stored, unlisted, rfl⟩⟩
    · exact .missingParent found recorded missing
    · exact .parentDoesNotContain found recorded stored unlisted
  · obtain ⟨id, returns, rfl⟩ := mem_cycleIssues_iff.mp cycle
    exact .cyclicHierarchy returns
  · rcases mem_partitionIssues_iff.mp partition with
      ⟨missing, rfl⟩ | ⟨root, found, ⟨parent, recorded, rfl⟩ | ⟨incapable, rfl⟩⟩
    · exact .missingPartitionRoot registered missing
    · exact .partitionHasParent registered found recorded
    · exact .notPartitionCapable registered found incapable
  · obtain ⟨id, indexed, unreached, rfl⟩ := mem_reachabilityIssues_iff.mp reachability
    exact .unreachable indexed unreached

/-- An audit misses no breach, by cases on the rule. -/
theorem Finding.mem_audit (finding : Finding catalog repository issue)
    : issue ∈ repository.audit catalog := by
  have ownership (wrong : issue ∈ ownershipIssues repository.nodes)
      : issue ∈ repository.audit catalog := by
    simp [Repository.audit, wrong]
  have partition {id} (registered : id ∈ repository.partitions)
      (wrong : issue ∈ partitionIssues catalog repository.nodes id)
      : issue ∈ repository.audit catalog := by
    simp only [Repository.audit, List.mem_append, List.mem_flatMap, ExtTreeSet.mem_toList]
    exact Or.inl (Or.inr ⟨id, registered, wrong⟩)
  have parent {id node} (found : repository.nodes[id]? = some node)
      (wrong : issue ∈ parentIssues repository.nodes node id)
      : issue ∈ repository.audit catalog := by
    simp only [Repository.audit, List.mem_append, List.mem_flatMap, Prod.exists,
      ExtTreeMap.mem_toList_iff_getElem?_eq_some]
    exact Or.inl (Or.inl (Or.inl (Or.inr ⟨id, node, found, wrong⟩)))
  have child {owner holder child} (found : repository.nodes[owner]? = some holder)
      (lists : child ∈ holder.childIds) (wrong : issue ∈ childIssues repository.nodes owner child)
      : issue ∈ repository.audit catalog :=
    ownership (mem_ownershipIssues_iff.mpr
      (Or.inl ⟨owner, holder, found, Or.inl ⟨child, lists, wrong⟩⟩))
  have annotation {owner holder id} (found : repository.nodes[owner]? = some holder)
      (lists : id ∈ holder.annotations)
      (wrong : issue ∈ annotationIssues repository.nodes owner id)
      : issue ∈ repository.audit catalog :=
    ownership (mem_ownershipIssues_iff.mpr
      (Or.inl ⟨owner, holder, found, Or.inr ⟨id, lists, wrong⟩⟩))
  cases finding with
  | @invalidId id indexed invalid =>
      have wrong := mem_identifierIssues_iff.mpr ⟨id, indexed, invalid, rfl⟩
      simp [Repository.audit, wrong]
  | danglingChild found lists missing =>
      exact child found lists (mem_childIssues_iff.mpr (Or.inl ⟨missing, rfl⟩))
  | danglingAnnotationId found lists missing =>
      exact annotation found lists (mem_annotationIssues_iff.mpr (Or.inl ⟨missing, rfl⟩))
  | @childParent _ _ _ node found lists stored differs =>
      exact child found lists (mem_childIssues_iff.mpr (Or.inr ⟨node, stored, differs, rfl⟩))
  | @annotationParent _ _ _ node found lists stored differs =>
      exact annotation found lists
        (mem_annotationIssues_iff.mpr (Or.inr ⟨node, stored, Or.inl ⟨differs, rfl⟩⟩))
  | @annotationHost _ _ _ node host found lists stored annotates differs =>
      exact annotation found lists (mem_annotationIssues_iff.mpr
        (Or.inr ⟨node, stored, Or.inr ⟨host, annotates, differs, rfl⟩⟩))
  | @sharedOwnership id shared =>
      exact ownership (mem_ownershipIssues_iff.mpr
        (Or.inr (mem_sharingIssues_iff.mpr ⟨id, shared, rfl⟩)))
  | @missingParent _ _ recordedParent found recorded missing =>
      exact parent found
        (mem_parentIssues_iff.mpr ⟨recordedParent, recorded, Or.inl ⟨missing, rfl⟩⟩)
  | @parentDoesNotContain _ _ recordedParent holder found recorded stored unlisted =>
      exact parent found (mem_parentIssues_iff.mpr
        ⟨recordedParent, recorded, Or.inr ⟨holder, stored, unlisted, rfl⟩⟩)
  | @cyclicHierarchy id cycle =>
      have wrong := mem_cycleIssues_iff.mpr ⟨id, cycle, rfl⟩
      simp [Repository.audit, wrong]
  | missingPartitionRoot registered missing =>
      exact partition registered (mem_partitionIssues_iff.mpr (Or.inl ⟨missing, rfl⟩))
  | @partitionHasParent _ root recordedParent registered found recorded =>
      exact partition registered (mem_partitionIssues_iff.mpr
        (Or.inr ⟨root, found, Or.inl ⟨recordedParent, recorded, rfl⟩⟩))
  | @notPartitionCapable _ root registered found incapable =>
      exact partition registered (mem_partitionIssues_iff.mpr
        (Or.inr ⟨root, found, Or.inr ⟨incapable, rfl⟩⟩))
  | @unreachable id indexed unreached =>
      have wrong := mem_reachabilityIssues_iff.mpr ⟨id, indexed, unreached, rfl⟩
      simp [Repository.audit, wrong]

/-- An audit reports exactly the breaches. -/
theorem mem_audit_iff (catalog : Catalog) (repository : Repository) (issue : Issue)
    : issue ∈ repository.audit catalog ↔ Finding catalog repository issue :=
  ⟨finding_of_mem_audit, Finding.mem_audit⟩

end Audit

end ModelRepository
