import ModelRepository.Interchange.Document
import ModelRepository.Json.Value

/-! Writing documents as JSON. Every field is written, in the order in which it is listed. -/

namespace ModelRepository.Interchange

open Json

/-- A pointer. -/
def pointerValue (pointer : Pointer) : Value :=
  .object [
    ("language", .optionalText pointer.language),
    ("version", .optionalText pointer.version),
    ("key", .optionalText pointer.key)
  ]

/-- A language release. -/
def languageValue (language : Language) : Value :=
  .object [("key", .text language.key), ("version", .text language.version)]

/-- A property. -/
def propertyValue (property : Property) : Value :=
  .object [
    ("property", pointerValue property.property),
    ("value", .optionalText property.value)
  ]

/-- A containment. -/
def containmentValue (containment : Containment) : Value :=
  .object [
    ("containment", pointerValue containment.containment),
    ("children", .texts containment.children)
  ]

/-- An entry of a reference. -/
def targetValue (target : Target) : Value :=
  .object [
    ("resolveInfo", .optionalText target.resolveInfo),
    ("reference", .optionalText target.reference)
  ]

/-- A reference. -/
def referenceValue (reference : Reference) : Value :=
  .object [
    ("reference", pointerValue reference.reference),
    ("targets", .array (reference.targets.map targetValue))
  ]

/-- A node. -/
def nodeValue (node : Node) : Value :=
  .object [
    ("id", .text node.id),
    ("classifier", pointerValue node.classifier),
    ("properties", .array (node.properties.map propertyValue)),
    ("containments", .array (node.containments.map containmentValue)),
    ("references", .array (node.references.map referenceValue)),
    ("annotations", .texts node.annotations),
    ("parent", .optionalText node.parent)
  ]

/-- A document. -/
def documentValue (document : Document) : Value :=
  .object [
    ("serializationFormatVersion", .text document.version),
    ("languages", .array (document.languages.map languageValue)),
    ("nodes", .array (document.nodes.map nodeValue))
  ]

end ModelRepository.Interchange
