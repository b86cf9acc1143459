import ModelRepository.Catalog
import ModelRepository.Proofs.Chunk.Canonical
import ModelRepository.Proofs.Chunk.Languages

/-! The orders of pointers and of reference entries.
Both compare records part by part, and each part may be absent: `OrdersByParts` says once for both
that such an order is linear, that only equal records share a place in it, and that what is absent
comes last. Canonical forms and catalogs rest on this, as sorting decides between no two different
entries, and a search by pointer ends at the equal pointer.
-/

namespace ModelRepository

open Std

-----------------------------------------------------------------------------------------
-- Part by part
-----------------------------------------------------------------------------------------

/-- A text that is present comes before a later one and before an absent one. -/
def Precedes (a b : Option String) : Prop :=
  ∃ text, a = some text ∧ ∀ other, b = some other → text < other

theorem compareAbsentLast_eq_lt_iff (a b : Option String)
    : compareAbsentLast a b = .lt ↔ Precedes a b := by
  cases a <;> cases b <;> simp [compareAbsentLast, Precedes, compare_lt_iff_lt]

/-- Lists of parts are compared by the first part in which they differ, by induction on both. -/
theorem compareLex_absentLast_eq_lt_iff (parts others : List (Option String))
    : List.compareLex compareAbsentLast parts others = .lt ↔ List.Lex Precedes parts others := by
  induction parts generalizing others with
  | nil => cases others <;> simp [List.compareLex]
  | cons part parts ih =>
      cases others with
      | nil => simp [List.compareLex]
      | cons other others =>
          rw [List.compareLex_cons_cons, Ordering.then_eq_lt, compareAbsentLast_eq_lt_iff,
            compareAbsentLast_eq_iff, ih, List.cons_lex_cons_iff]

/-- The order of a type is linear and decides equality, it goes by the first part in which two
records differ, and a part that is absent comes after every part that is present in its position.
-/
structure OrdersByParts {α : Type} [Ord α] (parts : α → List (Option String)) : Prop where
  eq_iff : ∀ a b : α, compare a b = .eq ↔ a = b
  swap : ∀ a b : α, compare b a = (compare a b).swap
  le_trans
    : ∀ a b c : α, (compare a b).isLE → (compare b c).isLE → (compare a c).isLE
  lt_trans
    : ∀ a b c : α, compare a b = .lt → compare b c = .lt → compare a c = .lt
  lt_iff : ∀ a b : α, compare a b = .lt ↔ List.Lex Precedes (parts a) (parts b)
  absent_last
    : ∀ (a b : α) (front : List (Option String)) (text : String) (rest others),
        parts a = front ++ some text :: rest
        → parts b = front ++ none :: others
        → compare a b = .lt

/-- A lawful order that compares lists of parts goes by parts. -/
theorem OrdersByParts.of_compareLex {α : Type} [Ord α] [TransOrd α] [LawfulEqOrd α]
    {parts : α → List (Option String)}
    (byParts : ∀ a b : α, compare a b = List.compareLex compareAbsentLast (parts a) (parts b))
    : OrdersByParts parts := by
  have lt_iff (a b : α) : compare a b = .lt ↔ List.Lex Precedes (parts a) (parts b) := by
    rw [byParts, compareLex_absentLast_eq_lt_iff]
  refine ⟨fun _ _ => Std.compare_eq_iff_eq, fun _ _ => OrientedCmp.eq_swap,
    fun _ _ _ => TransCmp.isLE_trans, fun _ _ _ => TransCmp.lt_trans, lt_iff, ?_⟩
  intro a b front text rest others left right
  rw [lt_iff, left, right]
  exact .append_left _ (.rel ⟨text, rfl, nofun⟩) front

/-- The parts of a pointer, from the language down. -/
def Pointer.parts (pointer : Pointer) : List (Option String) :=
  [pointer.language, pointer.version, pointer.key]

theorem Pointer.ordersByParts : OrdersByParts Pointer.parts :=
  .of_compareLex fun a b => by
    change a.order b = _
    simp only [order, compareLex, parts, List.compareLex_cons_cons, List.compareLex_nil_nil,
      Ordering.then_eq]

/-- The parts of a reference entry, the identifier before the hint. -/
def Target.parts (target : Target) : List (Option String) :=
  [target.id, target.resolveInfo]

theorem Target.ordersByParts : OrdersByParts Target.parts :=
  .of_compareLex fun a b => by
    change a.order b = _
    simp only [order, compareLex, parts, List.compareLex_cons_cons, List.compareLex_nil_nil,
      Ordering.then_eq]

-----------------------------------------------------------------------------------------
-- Catalogs
-----------------------------------------------------------------------------------------

namespace Catalog

/-- Registers classifiers one after another. -/
def registerAll (catalog : Catalog) (entries : List (Pointer × Bool)) : Catalog :=
  entries.foldl (fun catalog entry => catalog.register entry.1 entry.2) catalog

theorem partitionCapable?_register (catalog : Catalog) (registered classifier : Pointer)
    (flag : Bool)
    : (catalog.register registered flag).partitionCapable? classifier
      = if classifier = registered then some flag else catalog.partitionCapable? classifier :=
  getElem?_insert_eq_ite catalog.classifiers registered classifier flag

/-- The last entry under the very pointer counts, or else what was known before, by induction on the
entries.
-/
theorem partitionCapable?_registerAll (catalog : Catalog) (entries : List (Pointer × Bool))
    (classifier : Pointer)
    : (catalog.registerAll entries).partitionCapable? classifier
      = ((entries.reverse.find? (·.1 = classifier)).map Prod.snd).or
          (catalog.partitionCapable? classifier) := by
  induction entries generalizing catalog with
  | nil => rfl
  | cons entry entries ih =>
      have behind := ih (catalog.register entry.1 entry.2)
      rw [registerAll, List.foldl_cons, ← registerAll, behind, partitionCapable?_register,
        List.reverse_cons, List.find?_append, Option.map_or, Option.or_assoc]
      by_cases same : entry.1 = classifier
      · simp [same]
      · simp [same, Ne.symm same]

end Catalog

/-- Pointers and reference entries are ordered linearly, equal ones alone share a place, and what is
absent comes last in each position. So reference entries have one sorted list, in whatever order
they are given, and a catalog answers for a pointer from its entry under that very pointer, which is
the one that was registered last.
-/
theorem pointers_and_targets_are_ordered_by_parts
    : OrdersByParts Pointer.parts
      ∧ OrdersByParts Target.parts
      ∧ (∀ targets others : List Target,
          (sorted targets).Perm targets
          ∧ (sorted targets).Pairwise (fun a b => (compare a b).isLE)
          ∧ (sorted targets = sorted others ↔ targets.Perm others))
      ∧ ∀ (catalog : Catalog) (classifier : Pointer),
          (∀ flag,
            catalog.partitionCapable? classifier = some flag
            ↔ (classifier, flag) ∈ catalog.classifiers.toList)
          ∧ (catalog.contains classifier = true
            ↔ classifier ∈ catalog.classifiers.toList.map Prod.fst)
          ∧ ∀ entries,
              (catalog.registerAll entries).partitionCapable? classifier
              = ((entries.reverse.find? (·.1 = classifier)).map Prod.snd).or
                  (catalog.partitionCapable? classifier) := by
  refine ⟨Pointer.ordersByParts, Target.ordersByParts, fun targets others => ?_,
    fun catalog classifier => ⟨fun flag => ?_, ?_, fun entries => ?_⟩⟩
  · exact ⟨sortOn_perm id targets, pairwise_sortOn id targets,
      sorted_eq_sorted_iff targets others⟩
  · exact ExtTreeMap.mem_toList_iff_getElem?_eq_some.symm
  · rw [ExtTreeMap.map_fst_toList_eq_keys, ExtTreeMap.mem_keys, ← ExtTreeMap.contains_iff_mem]
    rfl
  · exact catalog.partitionCapable?_registerAll entries classifier

end ModelRepository
