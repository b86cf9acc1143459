import ModelRepository.Pointer
import ModelRepository.Text.Quoted

/-! Findings of an audit: which rule is broken, by which node, and how that is reported. -/

namespace ModelRepository

/-- How much an issue matters. -/
inductive Severity where
  | warning
  | error
  deriving DecidableEq

/-- The rule that an issue breaks. -/
inductive IssueKind where
  | invalidId
  | danglingChild
  | parentMismatch
  | sharedOwnership
  | parentDoesNotContain
  | missingParent
  | cyclicHierarchy
  | annotationMismatch
  | partitionHasParent
  | missingPartitionRoot
  | notPartitionCapable
  | unreachable
  deriving DecidableEq

/-- One finding about a repository. -/
inductive Issue where
  | invalidId (node : String)
  | danglingChild (owner child : String)
  | danglingAnnotationId (owner annotationId : String)
  | childParent (owner child : String) (recorded : Option String)
  | annotationParent (owner annotationId : String) (recorded : Option String)
  | annotationHost (owner annotationId host : String)
  | sharedOwnership (node : String) (owners : List String)
  | missingParent (node parent : String)
  | parentDoesNotContain (node parent : String)
  | cyclicHierarchy (node : String)
  | missingPartitionRoot (partition : String)
  | partitionHasParent (partition parent : String)
  | notPartitionCapable (partition : String) (classifier : Pointer)
  | unreachable (node : String)
  deriving DecidableEq

namespace Severity

/-- The name of a severity in data. -/
def key : Severity → String
  | warning => "warning"
  | error => "error"

/-- The name of a severity in messages. -/
def title : Severity → String
  | warning => "Warning"
  | error => "Error"

end Severity

/-- The name of a rule in data. -/
def IssueKind.key : IssueKind → String
  | invalidId => "invalid_id"
  | danglingChild => "dangling_child"
  | parentMismatch => "parent_mismatch"
  | sharedOwnership => "shared_ownership"
  | parentDoesNotContain => "parent_does_not_contain"
  | missingParent => "missing_parent"
  | cyclicHierarchy => "cyclic_hierarchy"
  | annotationMismatch => "annotation_mismatch"
  | partitionHasParent => "partition_has_parent"
  | missingPartitionRoot => "missing_partition_root"
  | notPartitionCapable => "not_partition_capable"
  | unreachable => "unreachable"

namespace Issue

/-- The rule that an issue breaks. -/
def kind : Issue → IssueKind
  | invalidId _ => .invalidId
  | danglingChild .. | danglingAnnotationId .. => .danglingChild
  | childParent .. | annotationParent .. => .parentMismatch
  | annotationHost .. => .annotationMismatch
  | sharedOwnership .. => .sharedOwnership
  | missingParent .. => .missingParent
  | parentDoesNotContain .. => .parentDoesNotContain
  | cyclicHierarchy _ => .cyclicHierarchy
  | missingPartitionRoot _ => .missingPartitionRoot
  | partitionHasParent .. => .partitionHasParent
  | notPartitionCapable .. => .notPartitionCapable
  | unreachable _ => .unreachable

/-- Only a node that nothing reaches is merely worth a warning. -/
def severity : Issue → Severity
  | unreachable _ => .warning
  | _ => .error

/-- The identifier of the offending node. -/
def subject : Issue → String
  | invalidId node => node
  | danglingChild owner _ | danglingAnnotationId owner _ => owner
  | childParent _ child _ => child
  | annotationParent _ annotationId _ | annotationHost _ annotationId _ => annotationId
  | sharedOwnership node _ => node
  | missingParent node _ | parentDoesNotContain node _ | cyclicHierarchy node => node
  | missingPartitionRoot partition | partitionHasParent partition _
  | notPartitionCapable partition _ => partition
  | unreachable node => node

/-- The text that tells what was found. -/
def message : Issue → String
  | invalidId node => "Node id " ++ Text.quote node ++ " does not satisfy the id grammar"
  | danglingChild _ child => "Child " ++ child ++ " is not in the index"
  | danglingAnnotationId _ annotationId => "Annotation " ++ annotationId ++ " is not in the index"
  | childParent owner _ recorded =>
      "Listed as child of " ++ owner ++ " but records parent " ++ Text.quoteOption recorded
  | annotationParent owner _ recorded =>
      "Listed as annotation of " ++ owner ++ " but records parent " ++ Text.quoteOption recorded
  | annotationHost owner _ host => "Annotates " ++ host ++ " but is listed by " ++ owner
  | sharedOwnership _ owners =>
      "Held by " ++ toString owners.length ++ " slots: " ++ ", ".intercalate owners
  | missingParent _ parent => "Parent " ++ parent ++ " is not in the index"
  | parentDoesNotContain _ parent => "Parent " ++ parent ++ " does not list this node"
  | cyclicHierarchy _ => "Parent chain returns to this node"
  | missingPartitionRoot _ => "Registered partition is not in the index"
  | partitionHasParent _ parent => "Partition root has parent " ++ parent
  | notPartitionCapable _ classifier =>
      "Classifier " ++ classifier.display ++ " cannot be a partition"
  | unreachable _ => "Not reachable from any partition root"

/-- One line that reports an issue. -/
def display (issue : Issue) : String :=
  "[" ++ issue.severity.title ++ "] " ++ issue.subject ++ ": " ++ issue.message

end Issue

/-- The number of issues of the given severity. -/
def countSeverity (issues : List Issue) (severity : Severity) : Nat :=
  issues.countP (·.severity = severity)

/-- An audit succeeds when it found no error. -/
def isSuccessful (issues : List Issue) : Bool :=
  !issues.any (·.severity = .error)

end ModelRepository
