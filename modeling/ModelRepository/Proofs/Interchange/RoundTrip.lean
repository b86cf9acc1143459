import ModelRepository.Interchange.Document
import ModelRepository.Proofs.Chunk.Languages

/-! Documents and chunks describe each other.
A document comes back as it is from the chunk that it describes, and a chunk from its document,
except for what either of the two forms leaves out: a document whose list of languages is empty gets
those that it uses, and an instance forgets which one it annotates. Each record of a document is
settled on its own, from the records in it.
-/

namespace ModelRepository.Interchange

-----------------------------------------------------------------------------------------
-- Records
-----------------------------------------------------------------------------------------

@[simp] theorem Pointer.ofPointer_toPointer (pointer : Pointer)
    : ofPointer pointer.toPointer = pointer :=
  rfl

@[simp] theorem Pointer.toPointer_ofPointer (pointer : ModelRepository.Pointer)
    : (ofPointer pointer).toPointer = pointer :=
  rfl

@[simp] theorem Language.ofLanguage_toLanguage (language : Language)
    : ofLanguage language.toLanguage = language :=
  rfl

@[simp] theorem Language.toLanguage_ofLanguage (language : ModelRepository.Language)
    : (ofLanguage language).toLanguage = language :=
  rfl

@[simp] theorem Property.ofProperty_toProperty (property : Property)
    : ofProperty property.toProperty = property := by
  simp [ofProperty, toProperty]

@[simp] theorem Property.toProperty_ofProperty (property : ModelRepository.Property)
    : (ofProperty property).toProperty = property := by
  simp [ofProperty, toProperty]

@[simp] theorem Containment.ofContainment_toContainment (containment : Containment)
    : ofContainment containment.toContainment = containment := by
  simp [ofContainment, toContainment]

@[simp] theorem Containment.toContainment_ofContainment
    (containment : ModelRepository.Containment)
    : (ofContainment containment).toContainment = containment := by
  simp [ofContainment, toContainment]

@[simp] theorem Target.ofTarget_toTarget (target : Target) : ofTarget target.toTarget = target :=
  rfl

@[simp] theorem Target.toTarget_ofTarget (target : ModelRepository.Target)
    : (ofTarget target).toTarget = target :=
  rfl

@[simp] theorem Reference.ofReference_toReference (reference : Reference)
    : ofReference reference.toReference = reference := by
  simp [ofReference, toReference, Function.comp_def]

@[simp] theorem Reference.toReference_ofReference (reference : ModelRepository.Reference)
    : (ofReference reference).toReference = reference := by
  simp [ofReference, toReference, Function.comp_def]

namespace Node

@[simp] theorem ofInstance_toInstance (node : Node) : ofInstance node.toInstance = node := by
  simp [ofInstance, toInstance, Function.comp_def]

/-- An instance comes back with everything but the instance that it annotates. -/
@[simp] theorem toInstance_ofInstance (node : Instance)
    : (ofInstance node).toInstance = { node with annotated := none } := by
  simp [ofInstance, toInstance, Function.comp_def]

-----------------------------------------------------------------------------------------
-- Languages
-----------------------------------------------------------------------------------------

/-- Every pointer of a node: its classifier and the pointers of its features. -/
def pointers (node : Node) : List Pointer :=
  node.classifier ::
    (node.properties.map Property.property ++ node.containments.map Containment.containment
      ++ node.references.map Reference.reference)

theorem pointers_toInstance (node : Node)
    : node.toInstance.pointers = node.pointers.map Pointer.toPointer := by
  simp [Instance.pointers, pointers, toInstance, Property.toProperty, Containment.toContainment,
    Reference.toReference, Function.comp_def]

end Node

/-- What an instance annotates has no part in the languages that are used. -/
theorem usedLanguages_forget_annotated (instances : List Instance)
    : usedLanguages (instances.map fun node => { node with annotated := none })
      = usedLanguages instances := by
  simp [usedLanguages, List.flatMap_map, Instance.pointers]

/-- The languages that the nodes use: those to which a pointer of a node belongs that names both a
language and a version. They are listed by key and then by version, each once.
-/
structure DeclaresUses (nodes : List Node) (languages : List Language) : Prop where
  ascending : languages.Pairwise fun a b => a.key < b.key ∨ a.key = b.key ∧ a.version < b.version
  mem_iff
    : ∀ language,
        language ∈ languages
        ↔ ∃ node ∈ nodes, ∃ pointer ∈ node.pointers,
            pointer.language = some language.key ∧ pointer.version = some language.version

theorem Pointer.languageRelease_toPointer_eq_some_iff (pointer : Pointer) (language : Language)
    : pointer.toPointer.languageRelease = some language.toLanguage
      ↔ pointer.language = some language.key ∧ pointer.version = some language.version := by
  obtain ⟨key, version, feature⟩ := pointer
  cases key <;> cases version <;>
    simp [toPointer, ModelRepository.Pointer.languageRelease, Language.toLanguage]

/-- The languages that the described instances use are those that the nodes use. -/
theorem declaresUses_usedLanguages (nodes : List Node)
    : DeclaresUses nodes
        ((usedLanguages (nodes.map Node.toInstance)).map Language.ofLanguage) := by
  refine ⟨?_, fun language => ?_⟩
  · exact List.pairwise_map.mpr (usedLanguages_ascending _)
  · have listed : language ∈ (usedLanguages (nodes.map Node.toInstance)).map Language.ofLanguage
        ↔ language.toLanguage ∈ usedLanguages (nodes.map Node.toInstance) := by
      constructor
      · intro member
        obtain ⟨release, used, rfl⟩ := List.mem_map.mp member
        exact used
      · exact List.mem_map_of_mem
    rw [listed, mem_usedLanguages_iff]
    simp [Node.pointers_toInstance, Pointer.languageRelease_toPointer_eq_some_iff]

-----------------------------------------------------------------------------------------
-- Documents and chunks
-----------------------------------------------------------------------------------------

namespace Document

/-- What a document of a supported release describes. -/
theorem toChunk_eq (release : FormatVersion) (languages : List Language) (nodes : List Node)
    : toChunk ⟨release.text, languages, nodes⟩
      = .ok {
          formatVersion := release
          languages :=
            if languages = [] then usedLanguages (nodes.map Node.toInstance)
            else languages.map Language.toLanguage
          instances := nodes.map Node.toInstance } := by
  simp only [toChunk, FormatVersion.ofText?_text, Chunk.ofInstances, List.isEmpty_iff]
  split <;> rfl

/-- A document describes a chunk exactly if it names a supported release. -/
theorem toChunk_eq_ok_iff (document : Document)
    : (∃ chunk, document.toChunk = .ok chunk)
      ↔ ∃ release : FormatVersion, document.version = release.text := by
  obtain ⟨version, languages, nodes⟩ := document
  constructor
  · rintro ⟨chunk, described⟩
    cases named : FormatVersion.ofText? version with
    | none => simp [toChunk, named] at described
    | some release => exact ⟨release, (FormatVersion.ofText?_eq_some_iff version release).mp named⟩
  · rintro ⟨release, rfl⟩
    exact ⟨_, toChunk_eq release languages nodes⟩

/-- A document comes back from the chunk that it describes, with the languages that it uses if it
lists none.
-/
theorem ofChunk_of_toChunk {release : FormatVersion} {languages : List Language}
    {nodes : List Node} {chunk : Chunk}
    (described : toChunk ⟨release.text, languages, nodes⟩ = .ok chunk)
    : ofChunk chunk
      = { version := release.text
          languages :=
            if languages = [] then
              (usedLanguages (nodes.map Node.toInstance)).map Language.ofLanguage
            else languages
          nodes } := by
  rw [toChunk_eq] at described
  cases described
  by_cases undeclared : languages = [] <;> simp [ofChunk, undeclared, Function.comp_def]

/-- A chunk comes back from its document, with the languages that it uses if it declares none, and
without the annotated instances.
-/
theorem toChunk_ofChunk (chunk : Chunk)
    : (ofChunk chunk).toChunk
      = .ok { chunk with
          languages :=
            if chunk.languages = [] then usedLanguages chunk.instances else chunk.languages
          instances := chunk.instances.map fun node => { node with annotated := none } } := by
  rw [ofChunk, toChunk_eq]
  simp [Function.comp_def, usedLanguages_forget_annotated]

end Document

/-- Every document of a supported release, and no other one, describes a chunk, and from that chunk
it comes back with its release, all its nodes and its languages; where it lists no languages, it
comes back with exactly those that its nodes use. Every chunk comes back from its document; only
what its instances annotate is lost, and a chunk that declares no languages gets those that its
instances use.
-/
theorem documents_and_chunks_describe_each_other (release : FormatVersion)
    (languages : List Language) (nodes : List Node) (document : Document) (chunk : Chunk)
    : (∃ described used,
          Document.toChunk ⟨release.text, languages, nodes⟩ = .ok described
          ∧ DeclaresUses nodes used
          ∧ Document.ofChunk described
            = ⟨release.text, if languages = [] then used else languages, nodes⟩)
      ∧ ((∃ described, document.toChunk = .ok described)
          ↔ ∃ supported : FormatVersion, document.version = supported.text)
      ∧ (Document.ofChunk chunk).toChunk
          = .ok { chunk with
              languages :=
                if chunk.languages = [] then usedLanguages chunk.instances else chunk.languages
              instances := chunk.instances.map fun node => { node with annotated := none } } :=
  ⟨⟨_, _, Document.toChunk_eq release languages nodes, declaresUses_usedLanguages nodes,
      Document.ofChunk_of_toChunk (Document.toChunk_eq release languages nodes)⟩,
    document.toChunk_eq_ok_iff, Document.toChunk_ofChunk chunk⟩

end ModelRepository.Interchange
