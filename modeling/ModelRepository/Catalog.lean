import ModelRepository.Pointer

/-! Known classifiers, each marked with whether its instances may be partition roots. -/

namespace ModelRepository

/-- A catalog answers for the classifiers it knows and stays silent about all others. -/
structure Catalog where
  classifiers : Std.ExtTreeMap Pointer Bool := ∅
  deriving DecidableEq, Inhabited

namespace Catalog

/-- The language in which languages are defined. -/
def metaLanguage : String := "LionCore-M3"

/-- The language of built-in types. -/
def builtinLanguage : String := "LionCore-builtins"

/-- The releases of both languages that are known from the start. -/
def releases : List String := ["2023.1", "2024.1"]

/-- The concepts of the language in which languages are defined. -/
def metaConcepts : List String :=
  ["Annotation", "Concept", "Containment", "Enumeration", "EnumerationLiteral", "Interface",
    "Language", "PrimitiveType", "Property", "Reference", "StructuredDataType"]

/-- The built-in types. -/
def builtinTypes : List String :=
  ["Boolean", "INamed", "Integer", "JSON", "Node", "String"]

/-- Adds a classifier, or marks a known one anew. -/
def register (catalog : Catalog) (classifier : Pointer) (partitionCapable : Bool) : Catalog :=
  ⟨catalog.classifiers.insert classifier partitionCapable⟩

/-- Adds a classifier whose instances may be partition roots. -/
def registerPartition (catalog : Catalog) (classifier : Pointer) : Catalog :=
  catalog.register classifier true

/-- The classifiers of both languages in one release. -/
def releaseEntries (release : String) : List (Pointer × Bool) :=
  metaConcepts.map (fun concept =>
      (.complete metaLanguage release concept, concept == "Language"))
    ++ builtinTypes.map (fun type =>
      (.complete builtinLanguage release (builtinLanguage ++ "-" ++ type), false))

/-- The catalog of the known languages; only a language itself may be a partition. -/
def standard : Catalog :=
  (releases.flatMap releaseEntries).foldl
    (fun catalog entry => catalog.register entry.1 entry.2) {}

/-- The number of known classifiers. -/
def size (catalog : Catalog) : Nat :=
  catalog.classifiers.size

/-- Whether a classifier is known. -/
def contains (catalog : Catalog) (classifier : Pointer) : Bool :=
  catalog.classifiers.contains classifier

/-- Whether instances of a known classifier may be partition roots. -/
def partitionCapable? (catalog : Catalog) (classifier : Pointer) : Option Bool :=
  catalog.classifiers[classifier]?

end Catalog

end ModelRepository
