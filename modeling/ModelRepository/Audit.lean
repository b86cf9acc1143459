import ModelRepository.Catalog
import ModelRepository.Grouping
import ModelRepository.Issue
import ModelRepository.Repository

/-! Auditing a repository against the rules that hold at rest.
An audit never changes anything. It reports identifiers first, then ownership, recorded parents,
cycles, partitions and reachability, each in ascending order of the nodes it looks at.
-/

namespace ModelRepository

namespace Audit

/-- Indexed identifiers outside the grammar. -/
def identifierIssues (index : Index) : List Issue :=
  (index.keys.filter fun id => !isValidId id).map .invalidId

/-- What is wrong with one listed child of `owner`. -/
def childIssues (index : Index) (owner child : String) : List Issue :=
  match index[child]? with
  | none => [.danglingChild owner child]
  | some node =>
      if node.parent = some owner then [] else [.childParent owner child node.parent]

/-- What is wrong with one listed annotation of `owner`. -/
def annotationIssues (index : Index) (owner annotationId : String) : List Issue :=
  match index[annotationId]? with
  | none => [.danglingAnnotationId owner annotationId]
  | some node =>
      (if node.parent = some owner then []
        else [Issue.annotationParent owner annotationId node.parent])
      ++ match node.annotated with
        | some host => if host = owner then [] else [.annotationHost owner annotationId host]
        | none => []

/-- What is wrong with the lists of one instance. -/
def listIssues (index : Index) (node : Instance) (id : String) : List Issue :=
  node.childIds.flatMap (childIssues index id)
    ++ node.annotations.flatMap (annotationIssues index id)

/-- Every slot of the index, as the identifier it holds and the owner it belongs to. -/
def slots (index : Index) : List (String × String) :=
  index.toList.flatMap fun entry => entry.2.ownedIds.map (·, entry.1)

/-- Identifiers that more than one slot holds. -/
def sharingIssues (index : Index) : List Issue :=
  (group (slots index)).toList.filterMap fun entry =>
    if entry.2.length > 1 then some (.sharedOwnership entry.1 entry.2) else none

/-- Listed identifiers resolve, agree about their owner and have one owner. -/
def ownershipIssues (index : Index) : List Issue :=
  index.toList.flatMap (fun entry => listIssues index entry.2 entry.1) ++ sharingIssues index

/-- What is wrong with the recorded parent of one instance. -/
def parentIssues (index : Index) (node : Instance) (id : String) : List Issue :=
  match node.parent with
  | none => []
  | some parent =>
      match index[parent]? with
      | none => [.missingParent id parent]
      | some holder => if holder.lists id then [] else [.parentDoesNotContain id parent]

/-- Whether the chain of recorded parents from `ancestor` on comes to `start` before it ends or
repeats an identifier in `visited`. -/
def returnsTo (index : Index) (start : String) (visited : IdSet) (ancestor : String) : Bool :=
  if ancestor = start then true
  else if _seen : visited.contains ancestor then false
  else
    match _stored : index[ancestor]? with
    | none => false
    | some node =>
        match node.parent with
        | none => false
        | some next => returnsTo index start (visited.insert ancestor) next
termination_by index.remaining visited.contains
decreasing_by
  refine index.remaining_lt ancestor ?_ (Bool.eq_false_iff.mpr _seen) (by simp) ?_
  · exact Std.ExtTreeMap.mem_iff_isSome_getElem?.mpr (by simp [_stored])
  · intro other member
    simp only [Std.ExtTreeSet.contains_insert, Bool.or_eq_true]
    exact Or.inr member

/-- Whether following recorded parents from `id` comes back to it. -/
def isCyclic (index : Index) (node : Instance) (id : String) : Bool :=
  match node.parent with
  | none => false
  | some parent => returnsTo index id ∅ parent

/-- Members of cycles of recorded parents. -/
def cycleIssues (index : Index) : List Issue :=
  index.toList.filterMap fun entry =>
    if isCyclic index entry.2 entry.1 then some (.cyclicHierarchy entry.1) else none

/-- What is wrong with one registered partition. -/
def partitionIssues (catalog : Catalog) (index : Index) (partition : String) : List Issue :=
  match index[partition]? with
  | none => [.missingPartitionRoot partition]
  | some root =>
      (match root.parent with
        | some parent => [Issue.partitionHasParent partition parent]
        | none => [])
      ++ if catalog.partitionCapable? root.classifier = some false then
          [.notPartitionCapable partition root.classifier]
        else []

/-- Indexed identifiers that no partition reaches. -/
def reachabilityIssues (index : Index) (partitions : IdSet) : List Issue :=
  let kept := reachable index partitions
  (index.keys.filter fun id => !kept.contains id).map .unreachable

end Audit

namespace Repository

/-- Every issue of the repository under `catalog`. -/
def audit (catalog : Catalog) (repository : Repository) : List Issue :=
  let index := repository.nodes
  Audit.identifierIssues index
    ++ Audit.ownershipIssues index
    ++ index.toList.flatMap (fun entry => Audit.parentIssues index entry.2 entry.1)
    ++ Audit.cycleIssues index
    ++ repository.partitions.toList.flatMap (Audit.partitionIssues catalog index)
    ++ Audit.reachabilityIssues index repository.partitions

end Repository

end ModelRepository
