import ModelRepository.Inspection
import ModelRepository.Proofs.Index.Lookup

/-! The layers in which a survey walks down the containments.
The walk keeps a set of visited identifiers, so it enters each node once, in the layer of its
distance from the roots. It goes on for as many layers as there are distances, whether or not nodes
are shared or contain themselves.
-/

namespace ModelRepository

open Std

-----------------------------------------------------------------------------------------
-- Distances
-----------------------------------------------------------------------------------------

/-- A way down from a root to `id` takes `depth` containment edges and leads through indexed nodes
alone.
-/
inductive Index.ContainedAt (index : Index) (roots : IdSet) : Nat → String → Prop
  | root {id : String} (registered : id ∈ roots) (indexed : id ∈ index)
    : ContainedAt index roots 0 id
  | child {depth : Nat} {owner id : String} {holder : Instance}
    (above : ContainedAt index roots depth owner) (found : index[owner]? = some holder)
    (lists : id ∈ holder.childIds) (indexed : id ∈ index)
    : ContainedAt index roots (depth + 1) id

/-- No way down to `id` is shorter than `depth`, and one is as long. -/
def Index.FirstAt (index : Index) (roots : IdSet) (depth : Nat) (id : String) : Prop :=
  index.ContainedAt roots depth id ∧ ∀ less < depth, ¬ index.ContainedAt roots less id

namespace Index

variable {index : Index} {roots : IdSet} {depth less : Nat} {id : String}

theorem ContainedAt.indexed (contained : index.ContainedAt roots depth id) : id ∈ index := by
  cases contained with
  | root _ indexed => exact indexed
  | child _ _ _ indexed => exact indexed

/-- The last owner on a shortest way is reached on a shortest way itself. -/
theorem FirstAt.exists_owner (first : index.FirstAt roots (depth + 1) id)
    : ∃ owner holder,
        index.FirstAt roots depth owner
        ∧ index[owner]? = some holder
        ∧ id ∈ holder.childIds := by
  obtain ⟨contained, nearest⟩ := first
  cases contained with
  | @child _ owner _ holder above found lists indexed =>
      refine ⟨owner, holder, ⟨above, fun less shorter before => ?_⟩, found, lists⟩
      exact nearest (less + 1) (by omega) (.child before found lists indexed)

/-- Below a distance that occurs every distance occurs, by induction on the difference. -/
theorem FirstAt.exists_of_le (first : index.FirstAt roots depth id) (above : less ≤ depth)
    : ∃ other, index.FirstAt roots less other := by
  induction above generalizing id with
  | refl => exact ⟨id, first⟩
  | step _ ih =>
      obtain ⟨owner, -, nearer, -⟩ := first.exists_owner
      exact ih nearer

end Index

namespace Inspection

variable {index : Index} {roots visited : IdSet} {entered layer : List String} {depth : Nat}
  {id : String}

-----------------------------------------------------------------------------------------
-- One layer
-----------------------------------------------------------------------------------------

/-- Entering a layer visits all that it holds of the index, and enters what was not visited before.
Witness: induction on the layer; once an identifier is entered it counts as visited.
-/
theorem mem_enter_iff
    : (id ∈ (enter index visited entered layer).1 ↔ id ∈ visited ∨ (id ∈ layer ∧ id ∈ index))
      ∧ (id ∈ (enter index visited entered layer).2
          ↔ id ∈ entered ∨ (id ∈ layer ∧ id ∈ index ∧ id ∉ visited)) := by
  induction layer generalizing visited entered with
  | nil => simp [enter]
  | cons head tail ih =>
      unfold enter
      split
      · rename_i skipped
        simp only [Bool.or_eq_true, ExtTreeSet.contains_iff_mem, Bool.not_eq_true'] at skipped
        rw [ih.1, ih.2]
        grind
      · rename_i fresh
        simp only [Bool.or_eq_true, ExtTreeSet.contains_iff_mem, Bool.not_eq_true', not_or] at fresh
        rw [ih.1, ih.2]
        simp only [ExtTreeSet.mem_insert, Std.compare_eq_iff_eq, List.mem_cons]
        grind

-----------------------------------------------------------------------------------------
-- Layer by layer
-----------------------------------------------------------------------------------------

/-- The walk has visited what is contained at less than `depth`, and its layer holds every node at
this distance and, of the index, only what is contained at this depth.
-/
structure LayerFrontier (index : Index) (roots : IdSet) (depth : Nat) (visited : IdSet)
    (layer : List String) : Prop where
  visited : ∀ id, id ∈ visited ↔ ∃ less < depth, index.ContainedAt roots less id
  sound : ∀ id ∈ layer, id ∈ index → index.ContainedAt roots depth id
  complete : ∀ id, index.FirstAt roots depth id → id ∈ layer

/-- The children of the entered identifiers, in order. -/
def nextLayer (index : Index) (entered : List String) : List String :=
  entered.flatMap fun id => (index[id]?.map Instance.childIds).getD []

theorem layerFrontier_first (index : Index) (roots : IdSet)
    : LayerFrontier index roots 0 ∅ roots.toList := by
  refine ⟨by simp, ?_, ?_⟩
  · exact fun id member indexed => .root (ExtTreeSet.mem_toList.mp member) indexed
  · rintro id ⟨contained, -⟩
    cases contained with
    | root registered _ => exact ExtTreeSet.mem_toList.mpr registered

namespace LayerFrontier

/-- What a layer enters is what has its distance. -/
theorem mem_entered_iff (frontier : LayerFrontier index roots depth visited layer)
    : id ∈ (enter index visited [] layer).2 ↔ index.FirstAt roots depth id := by
  rw [mem_enter_iff.2, frontier.visited]
  constructor
  · rintro (member | ⟨member, indexed, fresh⟩)
    · cases member
    · exact ⟨frontier.sound id member indexed,
        fun less shorter before => fresh ⟨less, shorter, before⟩⟩
  · intro first
    refine Or.inr ⟨frontier.complete id first, first.1.indexed, ?_⟩
    rintro ⟨less, shorter, before⟩
    exact first.2 less shorter before

/-- The children of what was entered make the next layer. Witness: the last owner on a shortest way
was entered, and what is contained at this depth was visited before or is in this layer.
-/
theorem next (frontier : LayerFrontier index roots depth visited layer)
    : LayerFrontier index roots (depth + 1) (enter index visited [] layer).1
        (nextLayer index (enter index visited [] layer).2) := by
  refine ⟨?_, ?_, ?_⟩
  · intro id
    rw [mem_enter_iff.1, frontier.visited]
    constructor
    · rintro (⟨less, shorter, before⟩ | ⟨member, indexed⟩)
      · exact ⟨less, by omega, before⟩
      · exact ⟨depth, Nat.lt_succ_self depth, frontier.sound id member indexed⟩
    · rintro ⟨less, shorter, before⟩
      by_cases earlier : ∃ less < depth, index.ContainedAt roots less id
      · exact Or.inl earlier
      · have later : ¬ less < depth := fun sooner => earlier ⟨less, sooner, before⟩
        obtain rfl : depth = less := by omega
        have first : index.FirstAt roots depth id :=
          ⟨before, fun other shorter sooner => earlier ⟨other, shorter, sooner⟩⟩
        exact Or.inr ⟨frontier.complete id first, before.indexed⟩
  · intro id member indexed
    obtain ⟨owner, entered, lists⟩ := List.mem_flatMap.mp member
    have first := frontier.mem_entered_iff.mp entered
    obtain ⟨holder, found⟩ := (index.mem_iff_exists owner).mp first.1.indexed
    exact .child first.1 found (by simpa [found] using lists) indexed
  · intro id first
    obtain ⟨owner, holder, nearer, found, lists⟩ := first.exists_owner
    exact List.mem_flatMap.mpr
      ⟨owner, frontier.mem_entered_iff.mpr nearer, by simpa [found] using lists⟩

end LayerFrontier

/-- Counting goes up. -/
theorem le_countLayers (index : Index) (visited : IdSet) (layer : List String) (counted : Nat)
    : counted ≤ countLayers index visited layer counted := by
  induction visited, layer, counted using countLayers.induct index with
  | case1 visited layer counted empty =>
      exact Nat.le_of_eq (by rw [countLayers, dif_pos empty])
  | case2 visited layer counted nonempty ih =>
      rw [countLayers, dif_neg nonempty]
      omega

/-- From a frontier on, the layers that are counted are the distances that occur. Witness: induction
along the walk; where a layer enters nothing no node has its distance, nor has any a greater one.
-/
theorem exists_firstAt_iff_of_frontier (frontier : LayerFrontier index roots depth visited layer)
    {distance : Nat} (beyond : depth ≤ distance)
    : (∃ id, index.FirstAt roots distance id)
      ↔ distance < countLayers index visited layer depth := by
  induction visited, layer, depth using countLayers.induct index with
  | case1 visited layer depth empty =>
      rw [countLayers, dif_pos empty]
      refine iff_of_false ?_ (by omega)
      rintro ⟨id, first⟩
      obtain ⟨other, nearer⟩ := first.exists_of_le beyond
      have entered := frontier.mem_entered_iff.mpr nearer
      simp [empty] at entered
  | case2 visited layer depth nonempty ih =>
      rw [countLayers, dif_neg nonempty]
      rcases Nat.eq_or_lt_of_le beyond with rfl | further
      · refine iff_of_true ?_ (le_countLayers index _ _ _)
        obtain ⟨id, entered⟩ := List.exists_mem_of_ne_nil _ nonempty
        exact ⟨id, frontier.mem_entered_iff.mp entered⟩
      · exact ih frontier.next further

/-- A survey counts one layer for each distance of a node from the roots. -/
theorem exists_firstAt_iff (index : Index) (roots : IdSet) (distance : Nat)
    : (∃ id, index.FirstAt roots distance id)
      ↔ distance < countLayers index ∅ roots.toList 0 :=
  exists_firstAt_iff_of_frontier (layerFrontier_first index roots) (Nat.zero_le distance)

end Inspection

end ModelRepository
