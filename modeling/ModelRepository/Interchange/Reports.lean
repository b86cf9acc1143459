import ModelRepository.Inspection
import ModelRepository.Interchange.Writing
import ModelRepository.Issue

/-! What repositories report about themselves, as JSON. -/

namespace ModelRepository.Interchange

open Json

/-- The configuration of a repository. -/
def configurationValue (configuration : Configuration) : Value :=
  .object [
    ("name", .text configuration.name),
    ("formatVersion", .text configuration.formatVersion.text),
    ("history", .text configuration.history.text)
  ]

/-- A group of nodes that share a classifier. -/
def classifierGroupValue (key : ClassifierKey) (group : NodeGroup) : Value :=
  .object [
    ("language", .text key.language),
    ("classifier", .text key.key),
    ("ids", .texts group.ids),
    ("size", .number group.size)
  ]

/-- A group of nodes that share a language. -/
def languageGroupValue (language : String) (group : NodeGroup) : Value :=
  .object [
    ("language", .text language),
    ("ids", .texts group.ids),
    ("size", .number group.size)
  ]

/-- The summary of a partition. -/
def summaryValue (summary : PartitionSummary) : Value :=
  .object [
    ("id", .text summary.id),
    ("classifier", .text summary.classifier),
    ("name", .optionalText summary.name),
    ("size", .number summary.size)
  ]

/-- The metrics of a repository. -/
def metricsValue (metrics : Metrics) : Value :=
  .object [
    ("node_count", .number metrics.nodeCount),
    ("partition_count", .number metrics.partitionCount),
    ("annotation_count", .number metrics.annotationCount),
    ("reference_count", .number metrics.referenceCount),
    ("dangling_reference_count", .number metrics.danglingReferenceCount),
    ("max_depth", .number metrics.maxDepth),
    ("version", .number metrics.version.toNat)
  ]

/-- An issue. -/
def issueValue (issue : Issue) : Value :=
  .object [
    ("severity", .text issue.severity.key),
    ("kind", .text issue.kind.key),
    ("message", .text issue.message),
    ("subject", .text issue.subject)
  ]

/-- The outcome of an audit. -/
def auditValue (issues : List Issue) : Value :=
  .object [("issues", .array (issues.map issueValue))]

/-- The audits of all repositories, by name. -/
def auditsValue (audits : List (String × List Issue)) : Value :=
  .object (audits.map fun (name, issues) => (name, auditValue issues))

end ModelRepository.Interchange
