import ModelRepository.Canonical
import ModelRepository.Proofs.Grouping

/-! The canonical form of a chunk is its own canonical form.
Sorting is stable: elements with one key keep their order, so a list that is sorted already stays as
it is, even where features share a pointer or instances an identifier. What is changed inside the
elements before they are sorted leaves their keys alone.
-/

namespace ModelRepository

open Std

-----------------------------------------------------------------------------------------
-- Sorting
-----------------------------------------------------------------------------------------

/-- Lists with the same elements under each key have the same elements. -/
theorem mem_iff_of_filter_eq {α κ : Type} [DecidableEq κ] {key : α → κ} {items others : List α}
    (same : ∀ place, items.filter (key · = place) = others.filter (key · = place)) (item : α)
    : item ∈ items ↔ item ∈ others := by
  have listed : item ∈ items.filter (key · = key item)
      ↔ item ∈ others.filter (key · = key item) := by
    rw [same]
  simpa using listed

section Sorting

variable {α β κ : Type} [Ord κ]

theorem sorted_eq_sortOn [Ord α] (items : List α) : sorted items = sortOn id items :=
  rfl

theorem sortOn_perm (key : α → κ) (items : List α) : (sortOn key items).Perm items :=
  List.mergeSort_perm items _

/-- A change that keeps the keys may come before or after sorting. -/
theorem map_sortOn {key : α → κ} {keyAfter : β → κ} {change : α → β}
    (keeps : ∀ item, keyAfter (change item) = key item) (items : List α)
    : (sortOn key items).map change = sortOn keyAfter (items.map change) :=
  List.map_mergeSort fun a _ b _ => by rw [keeps, keeps]

theorem perm_of_sortOn_eq {key : α → κ} {items others : List α}
    (same : sortOn key items = sortOn key others)
    : items.Perm others :=
  (sortOn_perm key items).symm.trans (same ▸ sortOn_perm key others)

variable [TransOrd κ]

/-- Any two elements are in order one way or the other. -/
theorem isLE_or_isLE (key : α → κ) (a b : α)
    : ((compare (key a) (key b)).isLE || (compare (key b) (key a)).isLE) = true := by
  have swap : compare (key b) (key a) = (compare (key a) (key b)).swap := OrientedCmp.eq_swap
  rw [swap]
  cases compare (key a) (key b) <;> rfl

theorem pairwise_sortOn (key : α → κ) (items : List α)
    : (sortOn key items).Pairwise fun a b => (compare (key a) (key b)).isLE :=
  List.pairwise_mergeSort (fun _ _ _ => TransCmp.isLE_trans) (isLE_or_isLE key) items

/-- Sorting leaves a sorted list alone, and so the order of elements with equal keys. -/
theorem sortOn_sortOn (key : α → κ) (items : List α)
    : sortOn key (sortOn key items) = sortOn key items :=
  List.mergeSort_of_pairwise (pairwise_sortOn key items)

/-- Changing and sorting a second time makes no difference if the change makes none. -/
theorem sortOn_map_sortOn_map (key : α → κ) (change : α → α)
    (keeps : ∀ item, key (change item) = key item)
    (settles : ∀ item, change (change item) = change item) (items : List α)
    : sortOn key ((sortOn key (items.map change)).map change)
      = sortOn key (items.map change) := by
  have settled : (items.map change).map change = items.map change := by
    rw [List.map_map]
    exact List.map_congr_left fun item _ => settles item
  rw [map_sortOn keeps, settled, sortOn_sortOn]

variable [LawfulEqOrd κ]

/-- Sorting undoes a permutation as long as only equal elements share a key. -/
theorem sortOn_eq_of_perm {key : α → κ} {items others : List α} (same : items.Perm others)
    (distinct : ∀ a ∈ items, ∀ b ∈ items, key a = key b → a = b)
    : sortOn key items = sortOn key others := by
  refine List.Perm.eq_of_pairwise ?_ (pairwise_sortOn key items) (pairwise_sortOn key others)
    ((sortOn_perm key items).trans (same.trans (sortOn_perm key others).symm))
  intro a b first second before behind
  have listed := (sortOn_perm key items).mem_iff.mp first
  have listedToo := same.mem_iff.mpr ((sortOn_perm key others).mem_iff.mp second)
  exact distinct a listed b listedToo
    (LawfulEqCmp.eq_of_compare (OrientedCmp.isLE_antisymm before behind))

theorem sorted_eq_sorted_iff [Ord α] [TransOrd α] [LawfulEqOrd α] (items others : List α)
    : sorted items = sorted others ↔ items.Perm others :=
  ⟨perm_of_sortOn_eq, fun same => sortOn_eq_of_perm same fun _ _ _ _ equal => equal⟩

variable [DecidableEq κ]

/-- Sorting keeps the order of elements with one key. Witness: they are a sorted sublist of the
list, and so one of the sorted list, which holds no more of them.
-/
theorem filter_sortOn (key : α → κ) (items : List α) (place : κ)
    : (sortOn key items).filter (key · = place) = items.filter (key · = place) := by
  have level : (items.filter (key · = place)).Pairwise
      fun a b => (compare (key a) (key b)).isLE := by
    refine List.pairwise_of_forall_mem_list fun a first b second => ?_
    have here : key a = place := by simpa using (List.mem_filter.mp first).2
    have there : key b = place := by simpa using (List.mem_filter.mp second).2
    simp [here, there]
  have kept := (List.sublist_mergeSort (fun _ _ _ => TransCmp.isLE_trans)
    (isLE_or_isLE key) level List.filter_sublist).filter (key · = place)
  rw [List.filter_filter] at kept
  simp only [Bool.and_self] at kept
  exact (kept.eq_of_length (((sortOn_perm key items).filter _).length_eq.symm)).symm

/-- Sorted lists are equal if they have the same elements under each key in the same order. By
induction on both: their first elements come no later than each other and so have one key.
-/
theorem eq_of_pairwise_of_filter_eq {key : α → κ} {items others : List α}
    (ordered : items.Pairwise fun a b => (compare (key a) (key b)).isLE)
    (orderedToo : others.Pairwise fun a b => (compare (key a) (key b)).isLE)
    (same : ∀ place, items.filter (key · = place) = others.filter (key · = place))
    : items = others := by
  induction items generalizing others with
  | nil =>
      refine (List.eq_nil_iff_forall_not_mem.mpr fun item => ?_).symm
      rw [← mem_iff_of_filter_eq same]
      exact List.not_mem_nil
  | cons head tail ih =>
      cases others with
      | nil =>
          have member := (mem_iff_of_filter_eq same head).mp List.mem_cons_self
          exact (List.not_mem_nil member).elim
      | cons first rest =>
          have level : key first = key head := by
            rcases List.mem_cons.mp ((mem_iff_of_filter_eq same head).mp List.mem_cons_self) with
              equal | later
            · rw [equal]
            rcases List.mem_cons.mp ((mem_iff_of_filter_eq same first).mpr List.mem_cons_self) with
              equal | behind
            · rw [equal]
            exact LawfulEqCmp.eq_of_compare (OrientedCmp.isLE_antisymm
              (List.rel_of_pairwise_cons orderedToo later)
              (List.rel_of_pairwise_cons ordered behind))
          have heads := same (key head)
          rw [List.filter_cons_of_pos (by simp), List.filter_cons_of_pos (by simpa using level)]
            at heads
          obtain ⟨rfl, -⟩ := List.cons.inj heads
          have tails (place : κ)
              : tail.filter (key · = place) = rest.filter (key · = place) := by
            have whole := same place
            by_cases here : key head = place <;> simpa [here] using whole
          rw [ih (List.pairwise_cons.mp ordered).2 (List.pairwise_cons.mp orderedToo).2 tails]

/-- Sorting makes lists equal exactly if they have the same elements under each key in the same
order.
-/
theorem sortOn_eq_iff (key : α → κ) (items others : List α)
    : sortOn key items = sortOn key others
      ↔ ∀ place, items.filter (key · = place) = others.filter (key · = place) := by
  constructor
  · intro same place
    rw [← filter_sortOn, same, filter_sortOn]
  · intro same
    refine eq_of_pairwise_of_filter_eq (pairwise_sortOn key items) (pairwise_sortOn key others) ?_
    simpa only [filter_sortOn] using same

end Sorting

-----------------------------------------------------------------------------------------
-- Canonical forms
-----------------------------------------------------------------------------------------

/-- The canonical form of an instance is canonical, feature list by feature list. -/
theorem Instance.canonical_canonical (node : Instance)
    : node.canonical.canonical = node.canonical := by
  have containments := sortOn_map_sortOn_map Containment.pointer
    (fun containment => { containment with children := sorted containment.children })
    (fun _ => rfl) (fun _ => by simp only [sorted_eq_sortOn, sortOn_sortOn]) node.containments
  have references := sortOn_map_sortOn_map Reference.pointer
    (fun reference => { reference with targets := sorted reference.targets })
    (fun _ => rfl) (fun _ => by simp only [sorted_eq_sortOn, sortOn_sortOn]) node.references
  simp only [canonical, sortOn_sortOn, sorted_eq_sortOn] at containments references ⊢
  rw [containments, references]

namespace Chunk

theorem size_canonical (chunk : Chunk) : chunk.canonical.size = chunk.size := by
  simp [canonical, size, sortOn]

theorem canonical_canonical (chunk : Chunk) : chunk.canonical.canonical = chunk.canonical := by
  have instances := sortOn_map_sortOn_map Instance.id Instance.canonical (fun _ => rfl)
    Instance.canonical_canonical chunk.instances
  simp only [canonical, foldl_insert_toList, instances]

end Chunk

end ModelRepository
