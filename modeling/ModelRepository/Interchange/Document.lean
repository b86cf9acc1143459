import ModelRepository.Chunk
import ModelRepository.Error

/-! Documents, the form in which chunks travel between programs.
Every part of a chunk has a travelling form of its own, with the fields in the order in which they
travel and under the names that they travel by. A document names its format release by text and may
leave its languages out; its nodes do not say which instance they annotate. Reading a document and
writing the chunk again loses nothing else.
-/

namespace ModelRepository.Interchange

/-- A pointer as it travels. -/
structure Pointer where
  language : Option String
  version : Option String
  key : Option String
  deriving DecidableEq, Inhabited

namespace Pointer

/-- The travelling form of a pointer. -/
def ofPointer (pointer : ModelRepository.Pointer) : Pointer where
  language := pointer.language
  version := pointer.version
  key := pointer.key

/-- The pointer that is described. -/
def toPointer (pointer : Pointer) : ModelRepository.Pointer where
  language := pointer.language
  version := pointer.version
  key := pointer.key

end Pointer

/-- A language release as it travels. -/
structure Language where
  key : String
  version : String
  deriving DecidableEq, Inhabited

namespace Language

/-- The travelling form of a language release. -/
def ofLanguage (language : ModelRepository.Language) : Language where
  key := language.key
  version := language.version

/-- The language release that is described. -/
def toLanguage (language : Language) : ModelRepository.Language where
  key := language.key
  version := language.version

end Language

/-- A property as it travels. -/
structure Property where
  property : Pointer
  value : Option String
  deriving DecidableEq, Inhabited

namespace Property

/-- The travelling form of a property. -/
def ofProperty (property : ModelRepository.Property) : Property where
  property := .ofPointer property.pointer
  value := property.value

/-- The property that is described. -/
def toProperty (property : Property) : ModelRepository.Property where
  pointer := property.property.toPointer
  value := property.value

end Property

/-- A containment as it travels. -/
structure Containment where
  containment : Pointer
  children : List String := []
  deriving DecidableEq, Inhabited

namespace Containment

/-- The travelling form of a containment. -/
def ofContainment (containment : ModelRepository.Containment) : Containment where
  containment := .ofPointer containment.pointer
  children := containment.children

/-- The containment that is described. -/
def toContainment (containment : Containment) : ModelRepository.Containment where
  pointer := containment.containment.toPointer
  children := containment.children

end Containment

/-- An entry of a reference as it travels, with the hint in front of the identifier. -/
structure Target where
  resolveInfo : Option String
  reference : Option String
  deriving DecidableEq, Inhabited

namespace Target

/-- The travelling form of an entry. -/
def ofTarget (target : ModelRepository.Target) : Target where
  resolveInfo := target.resolveInfo
  reference := target.id

/-- The entry that is described. -/
def toTarget (target : Target) : ModelRepository.Target where
  id := target.reference
  resolveInfo := target.resolveInfo

end Target

/-- A reference as it travels. -/
structure Reference where
  reference : Pointer
  targets : List Target := []
  deriving DecidableEq, Inhabited

namespace Reference

/-- The travelling form of a reference. -/
def ofReference (reference : ModelRepository.Reference) : Reference where
  reference := .ofPointer reference.pointer
  targets := reference.targets.map Target.ofTarget

/-- The reference that is described. -/
def toReference (reference : Reference) : ModelRepository.Reference where
  pointer := reference.reference.toPointer
  targets := reference.targets.map Target.toTarget

end Reference

/-- An instance as it travels. -/
structure Node where
  id : String
  classifier : Pointer
  properties : List Property := []
  containments : List Containment := []
  references : List Reference := []
  annotations : List String := []
  parent : Option String := none
  deriving DecidableEq, Inhabited

namespace Node

/-- The travelling form of an instance. -/
def ofInstance (node : Instance) : Node where
  id := node.id
  classifier := .ofPointer node.classifier
  properties := node.properties.map Property.ofProperty
  containments := node.containments.map Containment.ofContainment
  references := node.references.map Reference.ofReference
  annotations := node.annotations
  parent := node.parent

/-- The instance that a node describes; it is taken to annotate nothing. -/
def toInstance (node : Node) : Instance where
  id := node.id
  classifier := node.classifier.toPointer
  parent := node.parent
  properties := node.properties.map Property.toProperty
  containments := node.containments.map Containment.toContainment
  references := node.references.map Reference.toReference
  annotations := node.annotations

end Node

/-- A chunk as it travels. -/
structure Document where
  version : String
  languages : List Language := []
  nodes : List Node := []
  deriving DecidableEq, Inhabited

namespace Document

/-- The travelling form of a chunk. -/
def ofChunk (chunk : Chunk) : Document where
  version := chunk.formatVersion.text
  languages := chunk.languages.map Language.ofLanguage
  nodes := chunk.instances.map Node.ofInstance

/-- The chunk that a document describes. Where the document lists no languages, the chunk declares
those that its instances use. -/
def toChunk (document : Document) : Except RepositoryError Chunk :=
  match FormatVersion.ofText? document.version with
  | none => .error (.invalidRequest (.unsupportedFormat document.version))
  | some formatVersion =>
      let instances := document.nodes.map Node.toInstance
      if document.languages.isEmpty then .ok (Chunk.ofInstances formatVersion instances)
      else .ok ⟨formatVersion, document.languages.map Language.toLanguage, instances⟩

end Document

end ModelRepository.Interchange
