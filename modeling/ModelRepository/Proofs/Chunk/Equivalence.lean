import Mathlib.Data.List.Nodup
import ModelRepository.Proofs.Chunk.Rearrangement

/-! What it means for two chunks to be equivalent, apart from any order.
As long as a chunk names every instance once, and an instance every feature, the canonical form of a
chunk stands for sets and multisets: of languages, of instances by identifier, and of what features
hold by pointer. It still tells a containment or a reference that holds nothing from one that is not
there.
-/

namespace ModelRepository

open Std

-----------------------------------------------------------------------------------------
-- Content
-----------------------------------------------------------------------------------------

namespace Instance

/-- The value of the first property under `pointer`, which may be unset; nothing where there is no
such property.
-/
def value? (node : Instance) (pointer : Pointer) : Option (Option String) :=
  (node.properties.find? (·.pointer = pointer)).map Property.value

/-- The entries of the first reference under `pointer`. -/
def targetsOf (node : Instance) (pointer : Pointer) : List Target :=
  match node.references.find? (·.pointer = pointer) with
  | some reference => reference.targets
  | none => []

/-- No two features of one kind share a pointer. -/
structure Distinct (node : Instance) : Prop where
  properties : (node.properties.map Property.pointer).Nodup
  containments : (node.containments.map Containment.pointer).Nodup
  references : (node.references.map Reference.pointer).Nodup

instance (node : Instance) : Decidable node.Distinct :=
  decidable_of_iff
    ((node.properties.map Property.pointer).Nodup
      ∧ (node.containments.map Containment.pointer).Nodup
      ∧ (node.references.map Reference.pointer).Nodup)
    ⟨fun ⟨properties, containments, references⟩ => ⟨properties, containments, references⟩,
      fun distinct => ⟨distinct.properties, distinct.containments, distinct.references⟩⟩

/-- Two instances that record the same and hold the same values under each pointer, and that have
the same children, entries and annotations as often, in whatever order.
-/
structure SameContent (node other : Instance) : Prop where
  classifier : node.classifier = other.classifier
  parent : node.parent = other.parent
  annotated : node.annotated = other.annotated
  values : ∀ pointer, node.value? pointer = other.value? pointer
  children : ∀ pointer, (node.childrenOf pointer).Perm (other.childrenOf pointer)
  targets : ∀ pointer, (node.targetsOf pointer).Perm (other.targetsOf pointer)
  annotations : node.annotations.Perm other.annotations

/-- Two instances that have containments, and references, under the same pointers, even where these
hold nothing.
-/
structure SameFeatures (node other : Instance) : Prop where
  containments
    : ∀ pointer,
        pointer ∈ node.containments.map Containment.pointer
        ↔ pointer ∈ other.containments.map Containment.pointer
  references
    : ∀ pointer,
        pointer ∈ node.references.map Reference.pointer
        ↔ pointer ∈ other.references.map Reference.pointer

end Instance

namespace Chunk

/-- No identifier is repeated, and no pointer within one kind of features of an instance. -/
structure Distinct (chunk : Chunk) : Prop where
  ids : chunk.ids.Nodup
  instances : ∀ node ∈ chunk.instances, node.Distinct

instance (chunk : Chunk) : Decidable chunk.Distinct :=
  decidable_of_iff (chunk.ids.Nodup ∧ ∀ node ∈ chunk.instances, node.Distinct)
    ⟨fun ⟨ids, instances⟩ => ⟨ids, instances⟩, fun distinct => ⟨distinct.ids, distinct.instances⟩⟩

/-- Two chunks of one format with the same set of languages and the same identifiers, under which
they hold instances of the same content.
-/
structure SameContent (a b : Chunk) : Prop where
  formatVersion : a.formatVersion = b.formatVersion
  languages : ∀ language, language ∈ a.languages ↔ language ∈ b.languages
  ids : ∀ id, id ∈ a.ids ↔ id ∈ b.ids
  instances
    : ∀ node ∈ a.instances, ∀ other ∈ b.instances,
        node.id = other.id → node.SameContent other

/-- Instances under one identifier have containments and references under the same pointers. -/
def SameFeatures (a b : Chunk) : Prop :=
  ∀ node ∈ a.instances, ∀ other ∈ b.instances, node.id = other.id → node.SameFeatures other

end Chunk

-----------------------------------------------------------------------------------------
-- Features whose pointers are distinct
-----------------------------------------------------------------------------------------

section Features

variable {α β κ : Type} [DecidableEq κ] {key : α → κ}

/-- A key that is not repeated has one value at most, by induction on the list. -/
theorem valuesUnder_eq_toList (value : α → β) {items : List α} (unique : (items.map key).Nodup)
    (place : κ)
    : valuesUnder key value items place = ((items.find? (key · = place)).map value).toList := by
  induction items with
  | nil => rfl
  | cons head tail ih =>
      obtain ⟨alone, uniqueTail⟩ := List.nodup_cons.mp unique
      by_cases here : key head = place
      · have nothing : tail.filter (key · = place) = [] := by
          rw [List.filter_eq_nil_iff]
          intro item member
          have apart : key item ≠ key head := fun equal =>
            alone (equal ▸ List.mem_map_of_mem member)
          simpa [here] using apart
        simp [valuesUnder, here, nothing]
      · simpa [valuesUnder, here] using ih uniqueTail

theorem toList_eq_toList_iff (left right : Option α)
    : left.toList = right.toList ↔ left = right := by
  cases left <;> cases right <;> simp

theorem isSome_find?_iff (items : List α) (place : κ)
    : (items.find? (key · = place)).isSome = true ↔ place ∈ items.map key := by
  simp

/-- Lists of which there is one at most agree up to order if there is one on both sides or on none,
and what is in them agrees.
-/
theorem forall₂_perm_toList_iff (left right : Option (List α))
    : List.Forall₂ List.Perm left.toList right.toList
      ↔ (left.isSome = true ↔ right.isSome = true) ∧ (left.getD []).Perm (right.getD []) := by
  cases left <;> cases right <;> simp

/-- Elements with distinct keys hold the same lists up to order under each key exactly if they have
the same keys and the first list under each key is the same up to order.
-/
theorem forall₂_valuesUnder_iff (value : α → List β) {items others : List α}
    (unique : (items.map key).Nodup) (uniqueToo : (others.map key).Nodup)
    : (∀ place,
        List.Forall₂ List.Perm (valuesUnder key value items place)
          (valuesUnder key value others place))
      ↔ (∀ place, place ∈ items.map key ↔ place ∈ others.map key)
        ∧ ∀ place,
            (((items.find? (key · = place)).map value).getD []).Perm
              (((others.find? (key · = place)).map value).getD []) := by
  simp only [valuesUnder_eq_toList value unique, valuesUnder_eq_toList value uniqueToo,
    forall₂_perm_toList_iff, Option.isSome_map, isSome_find?_iff, forall_and]

end Features

-----------------------------------------------------------------------------------------
-- Instances
-----------------------------------------------------------------------------------------

namespace Instance

theorem childrenOf_eq_getD (node : Instance) (pointer : Pointer)
    : node.childrenOf pointer
      = ((node.containments.find? (·.pointer = pointer)).map Containment.children).getD [] := by
  unfold childrenOf
  cases node.containments.find? (·.pointer = pointer) <;> rfl

theorem targetsOf_eq_getD (node : Instance) (pointer : Pointer)
    : node.targetsOf pointer
      = ((node.references.find? (·.pointer = pointer)).map Reference.targets).getD [] := by
  unfold targetsOf
  cases node.references.find? (·.pointer = pointer) <;> rfl

/-- Where pointers are distinct, an instance rearranges another one exactly if the two have the same
identifier, the same content and the same features.
-/
theorem rearranges_iff_of_distinct {node other : Instance} (distinct : node.Distinct)
    (distinctToo : other.Distinct)
    : node.Rearranges other
      ↔ node.id = other.id ∧ node.SameContent other ∧ node.SameFeatures other := by
  have properties : (∀ pointer,
        valuesUnder Property.pointer Property.value node.properties pointer
        = valuesUnder Property.pointer Property.value other.properties pointer)
      ↔ ∀ pointer, node.value? pointer = other.value? pointer := by
    simp only [valuesUnder_eq_toList Property.value distinct.properties,
      valuesUnder_eq_toList Property.value distinctToo.properties, toList_eq_toList_iff, value?]
  have containments := forall₂_valuesUnder_iff Containment.children distinct.containments
    distinctToo.containments
  have references := forall₂_valuesUnder_iff Reference.targets distinct.references
    distinctToo.references
  simp only [← childrenOf_eq_getD, ← targetsOf_eq_getD] at containments references
  constructor
  · intro same
    obtain ⟨containers, children⟩ := containments.mp same.containments
    obtain ⟨referrers, targets⟩ := references.mp same.references
    exact ⟨same.id,
      ⟨same.classifier, same.parent, same.annotated, properties.mp same.properties, children,
        targets, same.annotations⟩,
      ⟨containers, referrers⟩⟩
  · rintro ⟨id, content, features⟩
    exact ⟨id, content.classifier, content.parent, content.annotated,
      properties.mpr content.values,
      containments.mpr ⟨features.containments, content.children⟩,
      references.mpr ⟨features.references, content.targets⟩, content.annotations⟩

end Instance

-----------------------------------------------------------------------------------------
-- Chunks
-----------------------------------------------------------------------------------------

namespace Chunk

/-- Canonical forms list the same languages exactly if the chunks declare the same set. -/
theorem canonical_languages_eq_iff (a b : Chunk)
    : a.canonical.languages = b.canonical.languages
      ↔ ∀ language, language ∈ a.languages ↔ language ∈ b.languages := by
  simp only [canonical, ExtTreeSet.toList_inj, ExtTreeSet.ext_mem_iff, mem_foldl_insert_iff,
    ExtTreeSet.not_mem_empty, false_or]

theorem map_id_map_canonical (chunk : Chunk)
    : (chunk.instances.map Instance.canonical).map Instance.id = chunk.ids := by
  rw [List.map_map]
  rfl

/-- Canonical forms list the same instances exactly if the chunks hold the same canonical ones, when
no identifier is repeated.
-/
theorem canonical_instances_eq_iff {a : Chunk} (unique : a.ids.Nodup) (b : Chunk)
    : a.canonical.instances = b.canonical.instances
      ↔ (a.instances.map Instance.canonical).Perm (b.instances.map Instance.canonical) := by
  refine ⟨perm_of_sortOn_eq, fun same => sortOn_eq_of_perm same ?_⟩
  rw [← map_id_map_canonical] at unique
  intro node listed other listedToo
  exact List.inj_on_of_nodup_map unique listed listedToo

/-- Chunks hold the same canonical instances exactly if they have the same identifiers, and under
each of them one canonical form.
-/
theorem perm_canonical_iff {a b : Chunk} (unique : a.ids.Nodup) (uniqueToo : b.ids.Nodup)
    : (a.instances.map Instance.canonical).Perm (b.instances.map Instance.canonical)
      ↔ (∀ id, id ∈ a.ids ↔ id ∈ b.ids)
        ∧ ∀ node ∈ a.instances, ∀ other ∈ b.instances,
            node.id = other.id → node.canonical = other.canonical := by
  constructor
  · intro same
    have ids := same.map Instance.id
    rw [map_id_map_canonical, map_id_map_canonical] at ids
    refine ⟨fun id => ids.mem_iff, fun node listed other listedToo equal => ?_⟩
    obtain ⟨twin, listedTwin, form⟩ :=
      List.mem_map.mp (same.mem_iff.mp (List.mem_map_of_mem listed))
    have id : twin.canonical.id = node.canonical.id := congrArg Instance.id form
    rw [← List.inj_on_of_nodup_map uniqueToo listedTwin listedToo (Eq.trans id equal), form]
  · rintro ⟨ids, forms⟩
    have nodup {chunk : Chunk} (unique : chunk.ids.Nodup)
        : (chunk.instances.map Instance.canonical).Nodup :=
      .of_map Instance.id (by rwa [map_id_map_canonical])
    -- What one chunk holds under an identifier, the other one holds in the same canonical form.
    refine (List.perm_ext_iff_of_nodup (nodup unique) (nodup uniqueToo)).mpr fun form => ?_
    simp only [List.mem_map]
    constructor
    · rintro ⟨node, listed, rfl⟩
      obtain ⟨other, listedToo, equal⟩ := List.mem_map.mp
        ((ids node.id).mp (List.mem_map_of_mem listed))
      exact ⟨other, listedToo, (forms node listed other listedToo equal.symm).symm⟩
    · rintro ⟨other, listedToo, rfl⟩
      obtain ⟨node, listed, equal⟩ := List.mem_map.mp
        ((ids other.id).mpr (List.mem_map_of_mem listedToo))
      exact ⟨node, listed, forms node listed other listedToo equal⟩

/-- Two chunks that repeat neither identifiers nor pointers are equivalent exactly if they have the
same content and the same features.
-/
theorem isEquivalent_iff_sameContent {a b : Chunk} (distinct : a.Distinct)
    (distinctToo : b.Distinct)
    : a.isEquivalent b = true ↔ a.SameContent b ∧ a.SameFeatures b := by
  have parts : a.isEquivalent b = true
      ↔ a.formatVersion = b.formatVersion
        ∧ a.canonical.languages = b.canonical.languages
        ∧ a.canonical.instances = b.canonical.instances := by
    simp [isEquivalent, canonical]
  rw [parts, canonical_languages_eq_iff, canonical_instances_eq_iff distinct.ids,
    perm_canonical_iff distinct.ids distinctToo.ids]
  have instances (node other : Instance) (listed : node ∈ a.instances)
      (listedToo : other ∈ b.instances) (equal : node.id = other.id)
      : node.canonical = other.canonical ↔ node.SameContent other ∧ node.SameFeatures other := by
    rw [Instance.canonical_eq_iff, Instance.rearranges_iff_of_distinct
      (distinct.instances node listed) (distinctToo.instances other listedToo),
      and_iff_right equal]
  constructor
  · rintro ⟨formatVersion, languages, ids, forms⟩
    refine ⟨⟨formatVersion, languages, ids, ?_⟩, ?_⟩
    · intro node listed other listedToo equal
      exact ((instances node other listed listedToo equal).mp
        (forms node listed other listedToo equal)).1
    · intro node listed other listedToo equal
      exact ((instances node other listed listedToo equal).mp
        (forms node listed other listedToo equal)).2
  · rintro ⟨content, features⟩
    refine ⟨content.formatVersion, content.languages, content.ids, ?_⟩
    intro node listed other listedToo equal
    exact (instances node other listed listedToo equal).mpr
      ⟨content.instances node listed other listedToo equal,
        features node listed other listedToo equal⟩

-- A library whose lists come in two orders, and a shelf whose only containment is empty.

/-- A library with two books, of which the chunk holds one. -/
def library : Instance :=
  { id := "library"
    classifier := .complete "lib" "1" "Library"
    properties := [⟨.complete "lib" "1" "name", some "City"⟩, ⟨.complete "lib" "1" "founded", none⟩]
    containments := [⟨.complete "lib" "1" "books", ["first", "second"]⟩]
    references :=
      [⟨⟨some "lib", none, some "newest"⟩, [⟨some "second", some "Dune"⟩, ⟨none, some "Dune"⟩]⟩] }

/-- The same library with its lists the other way round. -/
def reversedLibrary : Instance :=
  { id := "library"
    classifier := .complete "lib" "1" "Library"
    properties := [⟨.complete "lib" "1" "founded", none⟩, ⟨.complete "lib" "1" "name", some "City"⟩]
    containments := [⟨.complete "lib" "1" "books", ["second", "first"]⟩]
    references :=
      [⟨⟨some "lib", none, some "newest"⟩, [⟨none, some "Dune"⟩, ⟨some "second", some "Dune"⟩]⟩] }

/-- A book in that library. -/
def book : Instance :=
  { id := "first", classifier := .complete "lib" "2" "Book", parent := some "library" }

theorem library_sameContent : library.SameContent reversedLibrary := by
  refine ⟨rfl, rfl, rfl, fun pointer => ?_, fun pointer => ?_, fun pointer => ?_, .refl _⟩
  · have apart : Pointer.complete "lib" "1" "founded" ≠ .complete "lib" "1" "name" := by decide
    by_cases name : Pointer.complete "lib" "1" "name" = pointer <;>
      by_cases founded : Pointer.complete "lib" "1" "founded" = pointer <;>
      simp [Instance.value?, library, reversedLibrary, name, founded]
    exact apart (founded.trans name.symm)
  · by_cases books : Pointer.complete "lib" "1" "books" = pointer
    · simpa [Instance.childrenOf, library, reversedLibrary, books] using List.Perm.swap _ _ _
    · simp [Instance.childrenOf, library, reversedLibrary, books]
  · by_cases newest : Pointer.mk (some "lib") none (some "newest") = pointer
    · simpa [Instance.targetsOf, library, reversedLibrary, newest] using List.Perm.swap _ _ _
    · simp [Instance.targetsOf, library, reversedLibrary, newest]

/-- The library and its book. -/
def catalogue : Chunk :=
  ⟨.v2024_1, [⟨"lib", "1"⟩, ⟨"lib", "2"⟩], [library, book]⟩

/-- The same the other way round, with one language declared again. -/
def reversedCatalogue : Chunk :=
  ⟨.v2024_1, [⟨"lib", "2"⟩, ⟨"lib", "1"⟩, ⟨"lib", "2"⟩], [book, reversedLibrary]⟩

/-- Chunks with the same content and the same features are equivalent, whatever their order. -/
theorem catalogue_isEquivalent
    : catalogue.Distinct
      ∧ reversedCatalogue.Distinct
      ∧ catalogue.isEquivalent reversedCatalogue = true := by
  have distinct : catalogue.Distinct := by decide
  have distinctToo : reversedCatalogue.Distinct := by decide
  have content : catalogue.SameContent reversedCatalogue := by
    refine ⟨rfl, fun language => ?_, fun id => ?_, ?_⟩
    · simp only [catalogue, reversedCatalogue, List.mem_cons]
      grind
    · exact (List.Perm.swap _ _ _).mem_iff
    · refine List.forall_mem_cons.mpr ⟨List.forall_mem_cons.mpr ⟨?_, ?_⟩,
        List.forall_mem_singleton.mpr (List.forall_mem_cons.mpr ⟨?_, ?_⟩)⟩
      · exact fun equal => absurd equal (by decide)
      · exact List.forall_mem_singleton.mpr fun _ => library_sameContent
      · exact fun _ => ⟨rfl, rfl, rfl, fun _ => rfl, fun _ => .refl _, fun _ => .refl _, .refl _⟩
      · exact List.forall_mem_singleton.mpr fun equal => absurd equal (by decide)
  have features : catalogue.SameFeatures reversedCatalogue := by
    refine List.forall_mem_cons.mpr ⟨List.forall_mem_cons.mpr ⟨?_, ?_⟩,
      List.forall_mem_singleton.mpr (List.forall_mem_cons.mpr ⟨?_, ?_⟩)⟩
    · exact fun equal => absurd equal (by decide)
    · exact List.forall_mem_singleton.mpr fun _ => ⟨fun _ => Iff.rfl, fun _ => Iff.rfl⟩
    · exact fun _ => ⟨fun _ => Iff.rfl, fun _ => Iff.rfl⟩
    · exact List.forall_mem_singleton.mpr fun equal => absurd equal (by decide)
  exact ⟨distinct, distinctToo,
    (isEquivalent_iff_sameContent distinct distinctToo).mpr ⟨content, features⟩⟩

/-- A shelf with a containment that holds nothing. -/
def emptyShelf : Chunk :=
  { formatVersion := .v2024_1
    languages := []
    instances :=
      [ { id := "shelf"
          classifier := .complete "lib" "1" "Shelf"
          containments := [⟨.complete "lib" "1" "books", []⟩] } ] }

/-- That shelf without the containment. -/
def bareShelf : Chunk :=
  { formatVersion := .v2024_1
    languages := []
    instances := [{ id := "shelf", classifier := .complete "lib" "1" "Shelf" }] }

/-- Content alone does not decide equivalence: under every pointer the two shelves hold the same,
but one of them has a containment.
-/
theorem emptyShelf_not_equivalent
    : emptyShelf.Distinct
      ∧ bareShelf.Distinct
      ∧ emptyShelf.SameContent bareShelf
      ∧ emptyShelf.isEquivalent bareShelf = false := by
  have content : emptyShelf.SameContent bareShelf := by
    refine ⟨rfl, fun _ => Iff.rfl, fun _ => Iff.rfl, ?_⟩
    intro node listed other listedToo _
    rw [List.mem_singleton.mp listed, List.mem_singleton.mp listedToo]
    refine ⟨rfl, rfl, rfl, fun _ => rfl, fun pointer => ?_, fun _ => .refl _, .refl _⟩
    by_cases same : Pointer.complete "lib" "1" "books" = pointer <;>
      simp [Instance.childrenOf, same]
  exact ⟨by decide, by decide, content, by decide +kernel⟩

end Chunk

end ModelRepository
