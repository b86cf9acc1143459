import ModelRepository.Batch
import ModelRepository.Proofs.Index.Lookup

/-! Which batches are accepted.
The checks report the first offence in batch order, so a refusal depends on that order. The
conditions they amount to do not.
-/

namespace ModelRepository

open Std

-----------------------------------------------------------------------------------------
-- Shape
-----------------------------------------------------------------------------------------

/-- An instance that satisfies the grammar and the limits. Targets of references are exempt from
the grammar.
-/
structure Instance.WellShaped (node : Instance) : Prop where
  id : isValidId node.id = true
  parent : ∀ parent, node.parent = some parent → isValidId parent = true
  annotated : ∀ host, node.annotated = some host → isValidId host = true
  owned : ∀ id ∈ node.ownedIds, isValidId id = true
  targets
    : ∀ reference ∈ node.references, ∀ target ∈ reference.targets, target.isEmpty = false
  properties
    : ∀ property ∈ node.properties,
        ∀ value, property.value = some value → value.utf8ByteSize ≤ maxPropertyBytes

/-- A batch of bounded size whose instances are well shaped and share no identifier. -/
structure Batch.WellFormed (batch : List Instance) : Prop where
  size : batch.length ≤ maxChunkInstances
  shaped : ∀ node ∈ batch, node.WellShaped
  unique : (batch.map Instance.id).Nodup

theorem invalidId?_eq_none_iff (id : String) : invalidId? id = none ↔ isValidId id = true := by
  unfold invalidId?
  split <;> simp_all

theorem invalidIdIn?_eq_none_iff (ids : List String)
    : invalidIdIn? ids = none ↔ ∀ id ∈ ids, isValidId id = true := by
  simp [invalidIdIn?, invalidId?_eq_none_iff]

theorem bind_invalidId?_eq_none_iff (id? : Option String)
    : id?.bind invalidId? = none ↔ ∀ id, id? = some id → isValidId id = true := by
  cases id? <;> simp [invalidId?_eq_none_iff]

namespace Instance

theorem emptyTarget?_eq_none_iff (node : Instance)
    : node.emptyTarget? = none
      ↔ ∀ reference ∈ node.references, ∀ target ∈ reference.targets, target.isEmpty = false := by
  simp [emptyTarget?]

theorem oversizedProperty?_eq_none_iff (node : Instance)
    : node.oversizedProperty? = none
      ↔ ∀ property ∈ node.properties,
          ∀ value, property.value = some value → value.utf8ByteSize ≤ maxPropertyBytes := by
  simp [oversizedProperty?, Option.any_eq_false]

/-- The checks of shape pass exactly the well-shaped instances, check by check. -/
theorem shapeError?_eq_none_iff (node : Instance) : node.shapeError? = none ↔ node.WellShaped := by
  simp only [shapeError?, Option.orElse_eq_orElse, Option.orElse_eq_or, Option.or_eq_none_iff,
    invalidId?_eq_none_iff, bind_invalidId?_eq_none_iff, invalidIdIn?_eq_none_iff,
    emptyTarget?_eq_none_iff, oversizedProperty?_eq_none_iff]
  constructor
  · rintro ⟨id, parent, annotated, children, annotations, targets, properties⟩
    refine ⟨id, parent, annotated, ?_, targets, properties⟩
    intro owned member
    rcases List.mem_append.mp member with child | annotation
    · exact children owned child
    · exact annotations owned annotation
  · rintro ⟨id, parent, annotated, owned, targets, properties⟩
    exact ⟨id, parent, annotated, fun child member => owned child (List.mem_append_left _ member),
      fun annotation member => owned annotation (List.mem_append_right _ member), targets,
      properties⟩

/-- The checks of place pass an instance exactly when all that it owns is known and it is
registered if it is a root.
-/
theorem placeError?_eq_none_iff (known registered : String → Bool) (node : Instance)
    : node.placeError? known registered = none
      ↔ (∀ id ∈ node.ownedIds, known id = true)
        ∧ (node.parent = none → registered node.id = true) := by
  unfold placeError?
  split
  · rename_i missing found
    have unknown := List.find?_some found
    have owned := List.mem_of_find?_eq_some found
    simp only [reduceCtorEq, false_iff, not_and]
    intro allKnown
    simp [allKnown missing owned] at unknown
  · rename_i complete
    simp only [List.find?_eq_none, Bool.not_eq_true', Bool.not_eq_false] at complete
    rw [and_iff_right complete]
    simp [isRoot]

end Instance

namespace Batch

/-- The content check passes well-shaped instances whose identifiers are neither taken nor
repeated, by induction on the batch.
-/
theorem contentError?_eq_none_iff (seen : IdSet) (batch : List Instance)
    : contentError? seen batch = none
      ↔ (∀ node ∈ batch, node.WellShaped)
        ∧ (∀ node ∈ batch, node.id ∉ seen)
        ∧ (batch.map Instance.id).Nodup := by
  induction batch generalizing seen with
  | nil => simp [contentError?]
  | cons head tail ih =>
      unfold contentError?
      split
      · rename_i error refused
        have misshaped : ¬ head.WellShaped := by
          rw [← head.shapeError?_eq_none_iff, refused]
          simp
        simp [misshaped]
      · rename_i passed
        have shaped := head.shapeError?_eq_none_iff.mp passed
        split
        · rename_i taken
          have taken : head.id ∈ seen := ExtTreeSet.contains_iff_mem.mp taken
          simp [taken]
        · rename_i fresh
          have fresh : head.id ∉ seen := mt ExtTreeSet.contains_iff_mem.mpr fresh
          rw [ih]
          simp only [ExtTreeSet.mem_insert, Std.compare_eq_iff_eq, not_or, List.forall_mem_cons,
            List.map_cons, List.nodup_cons, List.mem_map, not_exists, not_and]
          constructor
          · rintro ⟨tailShaped, apart, tailUnique⟩
            exact ⟨⟨shaped, tailShaped⟩, ⟨fresh, fun node member => (apart node member).2⟩,
              fun node member same => (apart node member).1 same.symm, tailUnique⟩
          · rintro ⟨⟨-, tailShaped⟩, ⟨-, untaken⟩, apart, tailUnique⟩
            exact ⟨tailShaped,
              fun node member => ⟨fun same => apart node member same.symm, untaken node member⟩,
              tailUnique⟩

/-- The checks of shape pass exactly the well-formed batches. -/
theorem shapeError?_eq_none_iff (batch : List Instance)
    : shapeError? batch = none ↔ WellFormed batch := by
  unfold shapeError?
  split
  · rename_i long
    simp only [reduceCtorEq, false_iff]
    intro wellFormed
    have := wellFormed.size
    omega
  · rename_i short
    rw [contentError?_eq_none_iff]
    constructor
    · rintro ⟨shaped, -, unique⟩
      exact ⟨Nat.le_of_not_lt short, shaped, unique⟩
    · rintro ⟨-, shaped, unique⟩
      exact ⟨shaped, by simp, unique⟩

-----------------------------------------------------------------------------------------
-- Place
-----------------------------------------------------------------------------------------

/-- A well-formed batch that owns only what is submitted or indexed and whose roots are all
registered.
-/
structure Storable (index : Index) (registered : String → Prop) (batch : List Instance) : Prop
    extends WellFormed batch where
  resolved
    : ∀ node ∈ batch, ∀ id ∈ node.ownedIds, id ∈ batch.map Instance.id ∨ id ∈ index
  rooted : ∀ node ∈ batch, node.parent = none → registered node.id

/-- The checks pass exactly the storable batches. -/
theorem storeError?_eq_none_iff (index : Index) (registered : String → Bool)
    (batch : List Instance)
    : storeError? index registered batch = none
      ↔ Storable index (registered · = true) batch := by
  unfold storeError?
  split
  · rename_i error refused
    simp only [reduceCtorEq, false_iff]
    intro storable
    rw [(shapeError?_eq_none_iff batch).mpr storable.toWellFormed] at refused
    cases refused
  · rename_i passed
    simp only [List.findSome?_eq_none_iff, Instance.placeError?_eq_none_iff, Bool.or_eq_true,
      ExtTreeSet.contains_iff_mem, ExtTreeMap.contains_iff_mem, IdSet.mem_ofIds]
    constructor
    · intro placed
      exact ⟨(shapeError?_eq_none_iff batch).mp passed, fun node member => (placed node member).1,
        fun node member => (placed node member).2⟩
    · intro storable node member
      exact ⟨storable.resolved node member, storable.rooted node member⟩

/-- The order of a batch does not count for its acceptance, condition by condition. -/
theorem Storable.perm {index : Index} {registered : String → Prop} {batch other : List Instance}
    (storable : Storable index registered batch) (same : batch.Perm other)
    : Storable index registered other where
  size := same.length_eq ▸ storable.size
  shaped node member := storable.shaped node (same.mem_iff.mpr member)
  unique := (same.map Instance.id).nodup_iff.mp storable.unique
  resolved node member id owned :=
    (storable.resolved node (same.mem_iff.mpr member) id owned).imp_left
      (same.map Instance.id).mem_iff.mp
  rooted node member := storable.rooted node (same.mem_iff.mpr member)

end Batch

end ModelRepository
