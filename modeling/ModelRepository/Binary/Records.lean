import ModelRepository.Binary.Layout
import ModelRepository.Chunk
import ModelRepository.Configuration
import ModelRepository.Repository

/-! The layouts of chunks, snapshots and the parts they are made of.
The fields of a record follow one another without names, in the order given here.
-/

namespace ModelRepository.Binary

open Layout

/-- Language, version and key, each of which may be absent. -/
def pointer : Layout Pointer :=
  (pair (optional text) (pair (optional text) (optional text))).via
    (fun pointer => (pointer.language, pointer.version, pointer.key))
    (fun (language, version, key) => ⟨language, version, key⟩)

/-- Key and version of a language release. -/
def language : Layout Language :=
  (pair text text).via (fun language => (language.key, language.version))
    (fun (key, version) => ⟨key, version⟩)

/-- A pointer and the value, which may be absent. -/
def property : Layout Property :=
  (pair pointer (optional text)).via (fun property => (property.pointer, property.value))
    (fun (pointer, value) => ⟨pointer, value⟩)

/-- A pointer and the children. -/
def containment : Layout Containment :=
  (pair pointer (list text)).via (fun containment => (containment.pointer, containment.children))
    (fun (pointer, children) => ⟨pointer, children⟩)

/-- Identifier and hint of an entry, each of which may be absent. -/
def target : Layout Target :=
  (pair (optional text) (optional text)).via (fun target => (target.id, target.resolveInfo))
    (fun (id, resolveInfo) => ⟨id, resolveInfo⟩)

/-- A pointer and the entries. -/
def reference : Layout Reference :=
  (pair pointer (list target)).via (fun reference => (reference.pointer, reference.targets))
    (fun (pointer, targets) => ⟨pointer, targets⟩)

/-- Identifier, classifier and parent come before the features, the annotated host comes last. -/
def node : Layout Instance :=
  (pair text (pair pointer (pair (optional text) (pair (list property) (pair (list containment)
    (pair (list reference) (pair (list text) (optional text)))))))).via
    (fun node => (node.id, node.classifier, node.parent, node.properties, node.containments,
      node.references, node.annotations, node.annotated))
    (fun (id, classifier, parent, properties, containments, references, annotations, annotated) =>
      { id, classifier, parent, properties, containments, references, annotations, annotated })

/-- Releases are numbered from the oldest. -/
def formatVersion : Layout FormatVersion :=
  alternative (fun | .v2023_1 => 0 | .v2024_1 => 1)
    (fun | 0 => some .v2023_1 | 1 => some .v2024_1 | _ => none)

/-- A disabled history has the number zero. -/
def history : Layout History :=
  alternative (fun | .disabled => 0 | .enabled => 1)
    (fun | 0 => some .disabled | 1 => some .enabled | _ => none)

/-- Name, format release and history. -/
def configuration : Layout Configuration :=
  (pair text (pair formatVersion history)).via
    (fun configuration => (configuration.name, configuration.formatVersion, configuration.history))
    (fun (name, formatVersion, history) => { name, formatVersion, history })

/-- Format release, declared languages and instances. -/
def chunk : Layout Chunk :=
  (pair formatVersion (pair (list language) (list node))).via
    (fun chunk => (chunk.formatVersion, chunk.languages, chunk.instances))
    (fun (formatVersion, languages, instances) => ⟨formatVersion, languages, instances⟩)

/-- Configuration and content come before the two counters. -/
def snapshot : Layout Snapshot :=
  (pair configuration (pair (list text) (pair (list node) (pair word64 word64)))).via
    (fun snapshot => (snapshot.configuration, snapshot.partitions, snapshot.nodes,
      snapshot.version, snapshot.nextId))
    (fun (configuration, partitions, nodes, version, nextId) =>
      { configuration, partitions, nodes, version, nextId })

end ModelRepository.Binary
