import ModelRepository.FormatVersion
import ModelRepository.Instance

/-! Chunks, the unit in which clients send and receive instances.
A chunk declares the languages that its instances use. Declared from the instances themselves,
they are the complete language releases of all classifiers and feature pointers, in order and
without repetition.
-/

namespace ModelRepository

/-- A serialized set of instances. -/
structure Chunk where
  formatVersion : FormatVersion
  languages : List Language
  instances : List Instance
  deriving DecidableEq, Inhabited

namespace Instance

/-- Every pointer of an instance: its classifier and the pointers of its features. -/
def pointers (node : Instance) : List Pointer :=
  node.classifier ::
    (node.properties.map Property.pointer ++ node.containments.map Containment.pointer
      ++ node.references.map Reference.pointer)

end Instance

/-- The language releases that `instances` use, listed in order. -/
def usedLanguages (instances : List Instance) : List Language :=
  let releases := instances.flatMap fun node => node.pointers.filterMap Pointer.languageRelease
  (releases.foldl Std.ExtTreeSet.insert (∅ : Std.ExtTreeSet Language)).toList

namespace Chunk

/-- The chunk that declares exactly the languages its instances use. -/
def ofInstances (formatVersion : FormatVersion) (instances : List Instance) : Chunk :=
  ⟨formatVersion, usedLanguages instances, instances⟩

/-- Declares the languages that the instances use in place of the listed ones. -/
def redeclareLanguages (chunk : Chunk) : Chunk :=
  ofInstances chunk.formatVersion chunk.instances

/-- The identifiers of the instances, in list order. -/
def ids (chunk : Chunk) : List String :=
  chunk.instances.map Instance.id

/-- The first instance with the identifier `id`. -/
def get? (chunk : Chunk) (id : String) : Option Instance :=
  chunk.instances.find? (·.id = id)

/-- The number of instances. -/
def size (chunk : Chunk) : Nat :=
  chunk.instances.length

end Chunk

end ModelRepository
