import ModelRepository.Chunk

/-! The canonical order of a chunk, in which chunks are compared by meaning.
Languages are listed once, by key and version, instances by identifier, features by pointer,
reference entries by their parts, and children and annotations by identifier. Features that
share a pointer, and instances that share an identifier, keep their order.
-/

namespace ModelRepository

/-- Sorts by a key; elements with equal keys keep their order. -/
def sortOn {α κ : Type} [Ord κ] (key : α → κ) (items : List α) : List α :=
  items.mergeSort fun a b => (compare (key a) (key b)).isLE

/-- Sorts in ascending order. -/
def sorted {α : Type} [Ord α] (items : List α) : List α :=
  items.mergeSort fun a b => (compare a b).isLE

namespace Instance

/-- The instance with its lists in canonical order. -/
def canonical (node : Instance) : Instance :=
  { node with
    properties := sortOn Property.pointer node.properties
    containments := sortOn Containment.pointer
      (node.containments.map fun containment =>
        { containment with children := sorted containment.children })
    references := sortOn Reference.pointer
      (node.references.map fun reference =>
        { reference with targets := sorted reference.targets })
    annotations := sorted node.annotations }

end Instance

namespace Chunk

/-- The chunk in canonical order. -/
def canonical (chunk : Chunk) : Chunk :=
  { formatVersion := chunk.formatVersion
    languages := (chunk.languages.foldl Std.ExtTreeSet.insert
      (∅ : Std.ExtTreeSet Language)).toList
    instances := sortOn Instance.id (chunk.instances.map Instance.canonical) }

/-- Chunks mean the same when their canonical forms are equal. -/
def isEquivalent (a b : Chunk) : Bool :=
  a.canonical = b.canonical

end Chunk

end ModelRepository
