import Mathlib.Data.List.Forall2
import Mathlib.Data.List.Perm.Basic
import ModelRepository.Proofs.Chunk.Canonical

/-! Which instances share a canonical form.
Sorting features by their pointers alone leaves those that share a pointer in the order in which
they came, and that order counts, as reading a feature looks at the first one. Hence the canonical
form forgets the order of everything but such features. `Instance.Rearranges` says this of two
instances without sorting.
-/

namespace ModelRepository

open Std

-----------------------------------------------------------------------------------------
-- Features under one pointer
-----------------------------------------------------------------------------------------

section Features

variable {α β κ : Type} [DecidableEq κ]

/-- The values of the elements with the key `place`, in list order. -/
def valuesUnder (key : α → κ) (value : α → β) (items : List α) (place : κ) : List β :=
  (items.filter (key · = place)).map value

/-- Elements that are made of a key and a value have the same stable sort, after their values have
been arranged, exactly if the arranged values under each key are the same.
-/
theorem sortOn_arrange_eq_iff [Ord κ] [TransOrd κ] [LawfulEqOrd κ] (key : α → κ) (value : α → β)
    (make : κ → β → α) (keyMade : ∀ place content, key (make place content) = place)
    (valueMade : ∀ place content, value (make place content) = content) (arrange : β → β)
    (items others : List α)
    : sortOn key (items.map fun item => make (key item) (arrange (value item)))
        = sortOn key (others.map fun item => make (key item) (arrange (value item)))
      ↔ ∀ place,
          (valuesUnder key value items place).map arrange
          = (valuesUnder key value others place).map arrange := by
  -- Under one key the elements are made of that key and their arranged values.
  have made (items : List α) (place : κ)
      : (items.map fun item => make (key item) (arrange (value item))).filter (key · = place)
        = ((valuesUnder key value items place).map arrange).map (make place) := by
    rw [List.filter_map, valuesUnder, List.map_map, List.map_map]
    simp only [Function.comp_def, keyMade]
    refine List.map_congr_left fun item member => ?_
    have here : key item = place := by simpa using (List.mem_filter.mp member).2
    rw [here]
  have values (contents : List β) (place : κ)
      : (contents.map (make place)).map value = contents := by
    rw [List.map_map]
    exact (List.map_congr_left fun content _ => valueMade place content).trans (List.map_id _)
  rw [sortOn_eq_iff]
  refine forall_congr' fun place => ?_
  rw [made, made]
  refine ⟨fun same => ?_, congrArg _⟩
  rw [← values ((valuesUnder key value items place).map arrange) place, same, values]

/-- Sorting makes lists of lists equal exactly if each list is a permutation of the other one in its
place.
-/
theorem map_sorted_eq_iff [Ord α] [TransOrd α] [LawfulEqOrd α] (lists others : List (List α))
    : lists.map sorted = others.map sorted ↔ List.Forall₂ List.Perm lists others := by
  have placed := List.forall₂_map_left_iff (R := Eq) (f := sorted) (l := lists)
    (u := others.map sorted)
  rw [List.forall₂_eq_eq_eq, List.forall₂_map_right_iff] at placed
  simpa only [sorted_eq_sorted_iff] using placed

end Features

-----------------------------------------------------------------------------------------
-- Instances
-----------------------------------------------------------------------------------------

namespace Instance

/-- `other` is `node` with its lists in another order, except that features under one pointer keep
theirs.
-/
structure Rearranges (node other : Instance) : Prop where
  id : node.id = other.id
  classifier : node.classifier = other.classifier
  parent : node.parent = other.parent
  annotated : node.annotated = other.annotated
  properties
    : ∀ pointer,
        valuesUnder Property.pointer Property.value node.properties pointer
        = valuesUnder Property.pointer Property.value other.properties pointer
  containments
    : ∀ pointer,
        List.Forall₂ List.Perm
          (valuesUnder Containment.pointer Containment.children node.containments pointer)
          (valuesUnder Containment.pointer Containment.children other.containments pointer)
  references
    : ∀ pointer,
        List.Forall₂ List.Perm
          (valuesUnder Reference.pointer Reference.targets node.references pointer)
          (valuesUnder Reference.pointer Reference.targets other.references pointer)
  annotations : node.annotations.Perm other.annotations

/-- Instances have one canonical form exactly if one rearranges the other, list by list. -/
theorem canonical_eq_iff (node other : Instance)
    : node.canonical = other.canonical ↔ node.Rearranges other := by
  have properties := sortOn_arrange_eq_iff Property.pointer Property.value Property.mk
    (fun _ _ => rfl) (fun _ _ => rfl) (fun value => value) node.properties other.properties
  have containments := sortOn_arrange_eq_iff Containment.pointer Containment.children
    Containment.mk (fun _ _ => rfl) (fun _ _ => rfl) sorted node.containments other.containments
  have references := sortOn_arrange_eq_iff Reference.pointer Reference.targets Reference.mk
    (fun _ _ => rfl) (fun _ _ => rfl) sorted node.references other.references
  simp only [List.map_id'] at properties
  simp only [map_sorted_eq_iff] at containments references
  have annotations := sorted_eq_sorted_iff node.annotations other.annotations
  constructor
  · intro same
    simp only [canonical, Instance.mk.injEq] at same
    obtain ⟨id, classifier, parent, sameProperties, sameContainments, sameReferences,
      sameAnnotations, annotated⟩ := same
    exact ⟨id, classifier, parent, annotated, properties.mp sameProperties,
      containments.mp sameContainments, references.mp sameReferences,
      annotations.mp sameAnnotations⟩
  · intro same
    simp only [canonical, Instance.mk.injEq]
    exact ⟨same.id, same.classifier, same.parent, properties.mpr same.properties,
      containments.mpr same.containments, references.mpr same.references,
      annotations.mpr same.annotations, same.annotated⟩

end Instance

-----------------------------------------------------------------------------------------
-- What a canonical form keeps
-----------------------------------------------------------------------------------------

theorem sorted_perm {α : Type} [Ord α] (items : List α) : (sorted items).Perm items :=
  sortOn_perm id items

section Features

variable {α β κ : Type} [Ord κ] (key : α → κ) (change : α → α)

/-- Sorting elements keeps what they hold in all, even if each one is rearranged before. -/
theorem flatMap_sortOn_map_perm (value : α → List β)
    (rearranged : ∀ item, (value (change item)).Perm (value item)) (items : List α)
    : ((sortOn key (items.map change)).flatMap value).Perm (items.flatMap value) := by
  refine ((sortOn_perm key (items.map change)).flatMap_right value).trans ?_
  rw [List.flatMap_map]
  exact List.Perm.flatMap_left items fun item _ => rearranged item

/-- Sorting elements keeps their keys, even if each one is changed before under its key. -/
theorem map_sortOn_map_perm (keeps : ∀ item, key (change item) = key item) (items : List α)
    : ((sortOn key (items.map change)).map key).Perm (items.map key) := by
  refine ((sortOn_perm key (items.map change)).map key).trans ?_
  rw [List.map_map]
  exact .of_eq (List.map_congr_left fun item _ => keeps item)

end Features

namespace Instance

variable (node : Instance)

theorem childIds_canonical_perm : node.canonical.childIds.Perm node.childIds :=
  flatMap_sortOn_map_perm _ _ _ (fun containment => sorted_perm containment.children)
    node.containments

theorem annotations_canonical_perm : node.canonical.annotations.Perm node.annotations :=
  sorted_perm node.annotations

theorem ownedIds_canonical_perm : node.canonical.ownedIds.Perm node.ownedIds :=
  node.childIds_canonical_perm.append node.annotations_canonical_perm

theorem targets_canonical_perm
    : (node.canonical.references.flatMap Reference.targets).Perm
        (node.references.flatMap Reference.targets) :=
  flatMap_sortOn_map_perm _ _ _ (fun reference => sorted_perm reference.targets) node.references

theorem pointers_canonical_perm : node.canonical.pointers.Perm node.pointers := by
  have properties := (sortOn_perm Property.pointer node.properties).map Property.pointer
  have containments := map_sortOn_map_perm Containment.pointer
    (fun containment => { containment with children := sorted containment.children })
    (fun _ => rfl) node.containments
  have references := map_sortOn_map_perm Reference.pointer
    (fun reference => { reference with targets := sorted reference.targets })
    (fun _ => rfl) node.references
  exact .cons _ ((properties.append containments).append references)

/-- What canonical forms keep, instances share that have the same one. -/
theorem perm_of_canonical_eq {β : Type} (part : Instance → List β)
    (keeps : ∀ node : Instance, (part node.canonical).Perm (part node)) {node other : Instance}
    (same : node.canonical = other.canonical)
    : (part node).Perm (part other) := by
  have kept := keeps other
  rw [← same] at kept
  exact (keeps node).symm.trans kept

end Instance

end ModelRepository
