import ModelRepository.Grouping
import ModelRepository.Repository

/-! Read-only surveys of a repository: groups of nodes, partition summaries and metrics. -/

namespace ModelRepository

/-- A classifier regardless of the release of its language; an absent part counts as empty. -/
structure ClassifierKey where
  language : String
  key : String
  deriving DecidableEq, Inhabited

namespace ClassifierKey

instance : Ord ClassifierKey :=
  ⟨compareLex (compareOn ClassifierKey.language) (compareOn ClassifierKey.key)⟩

instance : Std.TransOrd ClassifierKey :=
  inferInstanceAs (Std.TransCmp
    (compareLex (compareOn ClassifierKey.language) (compareOn ClassifierKey.key)))

/-- The key under which an instance is grouped. -/
def of (node : Instance) : ClassifierKey :=
  ⟨node.classifier.language.getD "", node.classifier.key.getD ""⟩

end ClassifierKey

/-- A group of nodes: the first of its identifiers, and how many there are in all. -/
structure NodeGroup where
  ids : List String
  size : Nat
  deriving DecidableEq, Inhabited

/-- One registered partition in a survey. -/
structure PartitionSummary where
  id : String
  classifier : String
  name : Option String
  /-- The number of nodes that the partition reaches, its root included. -/
  size : Nat
  deriving DecidableEq, Inhabited

/-- The size and shape of a repository. -/
structure Metrics where
  nodeCount : Nat
  partitionCount : Nat
  annotationCount : Nat
  /-- Reference entries that name an identifier. -/
  referenceCount : Nat
  /-- Of those, the ones whose identifier is not indexed. -/
  danglingReferenceCount : Nat
  /-- The number of containment edges on the longest way down from a partition root. -/
  maxDepth : Nat
  version : UInt64
  deriving DecidableEq, Inhabited

namespace Inspection

/-- The identifiers of the index grouped by `key`, each group cut off at `limit`. -/
def groupsBy {κ : Type} [Ord κ] [Std.TransOrd κ] (key : Instance → κ) (index : Index)
    (limit : Nat) : List (κ × NodeGroup) :=
  (group (index.toList.map fun entry => (key entry.2, entry.1))).toList.map fun entry =>
    (entry.1, ⟨entry.2.take limit, entry.2.length⟩)

/-- Nodes by classifier. -/
def byClassifier (repository : Repository) (limit : Nat) : List (ClassifierKey × NodeGroup) :=
  groupsBy ClassifierKey.of repository.nodes limit

/-- Nodes by the language of their classifier. -/
def byLanguage (repository : Repository) (limit : Nat) : List (String × NodeGroup) :=
  groupsBy (fun node => (ClassifierKey.of node).language) repository.nodes limit

/-- The indexed partitions in ascending order. -/
def summaries (repository : Repository) : List PartitionSummary :=
  repository.partitions.toList.filterMap fun id =>
    repository.nodes[id]?.map fun root =>
      { id
        classifier := root.classifier.display
        name := root.name?
        size := (reachable repository.nodes (IdSet.ofIds [id])).size }

/-- Enters the identifiers of one layer: those that are indexed and not visited yet, each once.
`entered` holds the ones entered so far. -/
def enter (index : Index) (visited : IdSet) (entered : List String)
    : List String → IdSet × List String
  | [] => (visited, entered)
  | id :: rest =>
      if visited.contains id || !index.contains id then enter index visited entered rest
      else enter index (visited.insert id) (id :: entered) rest

/-- Entering a layer keeps what was visited, by induction on the layer. -/
theorem contains_enter (index : Index) (visited : IdSet) (entered layer : List String)
    {id : String} (seen : visited.contains id = true)
    : (enter index visited entered layer).1.contains id = true := by
  induction layer generalizing visited entered with
  | nil => exact seen
  | cons head tail ih =>
      unfold enter
      split
      · exact ih visited entered seen
      · refine ih _ _ ?_
        simp only [Std.ExtTreeSet.contains_insert, Bool.or_eq_true]
        exact Or.inr seen

/-- A layer that enters anything leaves fewer identifiers to visit, by induction on the layer up
to the first identifier that enters. -/
theorem remaining_enter_lt (index : Index) (visited : IdSet) (layer : List String)
    (enters : (enter index visited [] layer).2 ≠ [])
    : index.remaining (enter index visited [] layer).1.contains
      < index.remaining visited.contains := by
  induction layer with
  | nil => simp [enter] at enters
  | cons head tail ih =>
      unfold enter at enters ⊢
      split
      · rename_i skipped
        rw [if_pos skipped] at enters
        exact ih enters
      · rename_i fresh
        simp only [Bool.or_eq_true, Bool.not_eq_true', not_or, Bool.not_eq_true,
          Bool.not_eq_false] at fresh
        refine index.remaining_lt head ?_ fresh.1 ?_ ?_
        · exact Std.ExtTreeMap.contains_iff_mem.mp fresh.2
        · exact contains_enter _ _ _ _ (by simp)
        · intro other member
          refine contains_enter _ _ _ _ ?_
          simp only [Std.ExtTreeSet.contains_insert, Bool.or_eq_true]
          exact Or.inr member

/-- The number of layers below and including `layer`, added to `counted`. Each layer holds the
children of the one above it that were not met before. -/
def countLayers (index : Index) (visited : IdSet) (layer : List String) (counted : Nat) : Nat :=
  if _none : (enter index visited [] layer).2 = [] then counted
  else
    countLayers index (enter index visited [] layer).1
      ((enter index visited [] layer).2.flatMap fun id =>
        (index[id]?.map Instance.childIds).getD [])
      (counted + 1)
termination_by index.remaining visited.contains
decreasing_by exact remaining_enter_lt index visited layer _none

/-- The number of containment edges from the partition roots down to the last layer. -/
def maxDepth (repository : Repository) : Nat :=
  countLayers repository.nodes ∅ repository.partitions.toList 0 - 1

/-- The size and shape of a repository. -/
def metrics (repository : Repository) : Metrics :=
  let nodes := repository.nodes.values
  let targets := nodes.flatMap Instance.referenceTargets
  { nodeCount := repository.nodes.size
    partitionCount := repository.partitions.size
    annotationCount := nodes.foldr (fun node others => node.annotations.length + others) 0
    referenceCount := targets.length
    danglingReferenceCount := targets.countP fun id => !repository.nodes.contains id
    maxDepth := maxDepth repository
    version := repository.version }

end Inspection

end ModelRepository
