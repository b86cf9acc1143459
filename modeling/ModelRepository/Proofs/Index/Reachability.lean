import ModelRepository.Proofs.Index.Lookup
import ModelRepository.Reachability

/-! The computed set of reached identifiers is the relation `Reaches`.
Sweeping an index down to what its roots reach changes nothing about what they reach, and
afterwards they reach everything that is left.
-/

namespace ModelRepository

open Std

-----------------------------------------------------------------------------------------
-- The relation
-----------------------------------------------------------------------------------------

namespace Reaches

variable {index : Index} {roots : IdSet} {id : String}

theorem indexed (reached : Reaches index roots id) : id ∈ index := by
  cases reached with
  | root _ indexed => exact indexed
  | owned _ _ indexed => exact indexed

/-- A stored instance that is reached passes this on to everything indexed that it lists. -/
theorem listed {owner : String} {holder : Instance} (reached : Reaches index roots owner)
    (found : index[owner]? = some holder) (lists : id ∈ holder.ownedIds) (indexed : id ∈ index)
    : Reaches index roots id :=
  .owned reached ((index.mem_ownedIds_iff owner id).mpr ⟨holder, found, lists⟩) indexed

/-- A set that holds the indexed roots and is closed under listing holds all that is reached,
by induction on the path.
-/
theorem mem_of_closed {visited : IdSet}
    (rooted : ∀ root ∈ roots, root ∈ index → root ∈ visited)
    (closed : ∀ owner ∈ visited, ∀ owned ∈ index.ownedIds owner, owned ∈ index → owned ∈ visited)
    (reached : Reaches index roots id)
    : id ∈ visited := by
  induction reached with
  | root member indexed => exact rooted _ member indexed
  | owned _ lists indexed ih => exact closed _ ih _ lists indexed

end Reaches

-----------------------------------------------------------------------------------------
-- The walk
-----------------------------------------------------------------------------------------

section Walk

variable {index : Index} {roots visited : IdSet} {id : String} {pending : List String}

/-- The walk passes over an identifier that it has visited or that is not indexed. -/
theorem reachFrom_skip (skipped : id ∈ visited ∨ id ∉ index)
    : reachFrom index visited (id :: pending) = reachFrom index visited pending := by
  rw [reachFrom]
  split
  · rfl
  · rename_i unseen
    split
    · rfl
    · rename_i node found
      rcases skipped with seen | absent
      · exact (unseen (ExtTreeSet.contains_iff_mem.mpr seen)).elim
      · exact (absent (Index.mem_of_getElem? found)).elim

/-- The walk visits an indexed identifier for the first time and turns to what it owns. -/
theorem reachFrom_visit {node : Instance} (fresh : id ∉ visited)
    (found : index[id]? = some node)
    : reachFrom index visited (id :: pending)
      = reachFrom index (visited.insert id) (node.ownedIds ++ pending) := by
  rw [reachFrom, dif_neg (mt ExtTreeSet.contains_iff_mem.mp fresh)]
  split
  · simp_all
  · rename_i stored again
    rw [Option.some.inj (again.symm.trans found)]

/-- The walk adds nothing that is out of reach. Witness: induction along the walk; what a
visited instance lists is reached through it.
-/
theorem reaches_of_mem_reachFrom (index : Index) (roots visited : IdSet)
    (pending : List String)
    (visitedReached : ∀ id ∈ visited, Reaches index roots id)
    (pendingReached : ∀ id ∈ pending, id ∈ index → Reaches index roots id)
    : ∀ id ∈ reachFrom index visited pending, Reaches index roots id := by
  induction visited, pending using reachFrom.induct index with
  | case1 visited =>
      rw [reachFrom]
      exact visitedReached
  | case2 visited id pending seen ih =>
      rw [reachFrom_skip (.inl (ExtTreeSet.contains_iff_mem.mp seen))]
      exact ih visitedReached fun other member => pendingReached other (by simp [member])
  | case3 visited id pending unseen absent ih =>
      rw [reachFrom_skip (.inr (index.not_mem_of_getElem?_eq_none absent))]
      exact ih visitedReached fun other member => pendingReached other (by simp [member])
  | case4 visited id pending unseen node found ih =>
      rw [reachFrom_visit (mt ExtTreeSet.contains_iff_mem.mpr unseen) found]
      have headReached := pendingReached id (by simp) (Index.mem_of_getElem? found)
      refine ih ?_ ?_
      · intro other member
        rw [ExtTreeSet.mem_insert, Std.compare_eq_iff_eq] at member
        rcases member with rfl | earlier
        · exact headReached
        · exact visitedReached other earlier
      · intro other member indexed
        rcases List.mem_append.mp member with lists | later
        · exact headReached.listed found lists indexed
        · exact pendingReached other (by simp [later]) indexed

/-- What a visited instance lists is visited, pending or not indexed. The walk keeps this up,
and once nothing is pending the visited identifiers are closed under listing.
-/
def WalkFrontier (index : Index) (visited : IdSet) (pending : List String) : Prop :=
  ∀ owner ∈ visited, ∀ owned ∈ index.ownedIds owner,
    owned ∈ index → owned ∈ visited ∨ owned ∈ pending

/-- Passing over an identifier keeps the frontier, since it needs no visit. -/
theorem WalkFrontier.skip (frontier : WalkFrontier index visited (id :: pending))
    (skipped : id ∈ visited ∨ id ∉ index)
    : WalkFrontier index visited pending := by
  intro owner member owned lists indexed
  rcases frontier owner member owned lists indexed with known | waiting
  · exact Or.inl known
  · rcases List.mem_cons.mp waiting with rfl | later
    · exact Or.inl (skipped.resolve_right (fun absent => absent indexed))
    · exact Or.inr later

/-- Visiting an identifier keeps the frontier, since all that it owns becomes pending. -/
theorem WalkFrontier.visit {node : Instance}
    (frontier : WalkFrontier index visited (id :: pending)) (found : index[id]? = some node)
    : WalkFrontier index (visited.insert id) (node.ownedIds ++ pending) := by
  intro owner member owned lists indexed
  rw [ExtTreeSet.mem_insert, Std.compare_eq_iff_eq] at member
  rcases member with rfl | earlier
  · obtain ⟨holder, stored, lists⟩ := (index.mem_ownedIds_iff _ _).mp lists
    rw [Option.some.inj (stored.symm.trans found)] at lists
    exact Or.inr (List.mem_append_left _ lists)
  · rcases frontier owner earlier owned lists indexed with known | waiting
    · exact Or.inl (by simp [known])
    · rcases List.mem_cons.mp waiting with rfl | later
      · exact Or.inl (by simp)
      · exact Or.inr (List.mem_append_right _ later)

/-- The walk ends with a set that holds the visited and the indexed pending identifiers and is
closed under listing. Witness: induction along the walk, which keeps its frontier.
-/
theorem reachFrom_closed (index : Index) (visited : IdSet) (pending : List String)
    (frontier : WalkFrontier index visited pending)
    : (∀ id ∈ visited, id ∈ reachFrom index visited pending)
      ∧ (∀ id ∈ pending, id ∈ index → id ∈ reachFrom index visited pending)
      ∧ ∀ owner ∈ reachFrom index visited pending, ∀ owned ∈ index.ownedIds owner,
          owned ∈ index → owned ∈ reachFrom index visited pending := by
  induction visited, pending using reachFrom.induct index with
  | case1 visited =>
      rw [reachFrom]
      refine ⟨fun _ member => member, by simp, ?_⟩
      intro owner member owned lists indexed
      simpa using frontier owner member owned lists indexed
  | case2 visited id pending seen ih =>
      have idVisited : id ∈ visited := ExtTreeSet.contains_iff_mem.mp seen
      rw [reachFrom_skip (.inl idVisited)]
      obtain ⟨grown, covered, closed⟩ := ih (frontier.skip (.inl idVisited))
      refine ⟨grown, ?_, closed⟩
      intro other member indexed
      rcases List.mem_cons.mp member with rfl | later
      · exact grown other idVisited
      · exact covered other later indexed
  | case3 visited id pending unseen absent ih =>
      have notIndexed : id ∉ index := index.not_mem_of_getElem?_eq_none absent
      rw [reachFrom_skip (.inr notIndexed)]
      obtain ⟨grown, covered, closed⟩ := ih (frontier.skip (.inr notIndexed))
      refine ⟨grown, ?_, closed⟩
      intro other member indexed
      rcases List.mem_cons.mp member with rfl | later
      · exact (notIndexed indexed).elim
      · exact covered other later indexed
  | case4 visited id pending unseen node found ih =>
      rw [reachFrom_visit (mt ExtTreeSet.contains_iff_mem.mpr unseen) found]
      obtain ⟨grown, covered, closed⟩ := ih (frontier.visit found)
      refine ⟨fun other member => grown other (by simp [member]), ?_, closed⟩
      intro other member indexed
      rcases List.mem_cons.mp member with rfl | later
      · exact grown other (by simp)
      · exact covered other (List.mem_append_right _ later) indexed

/-- The computed set is exactly what the roots reach. Witness: the walk stays within reach, and
its result is closed and holds the indexed roots.
-/
@[simp]
theorem mem_reachable_iff (index : Index) (roots : IdSet) (id : String)
    : id ∈ reachable index roots ↔ Reaches index roots id := by
  constructor
  · refine reaches_of_mem_reachFrom index roots ∅ roots.toList (by simp) ?_ id
    intro root member indexed
    exact .root (ExtTreeSet.mem_toList.mp member) indexed
  · intro reached
    obtain ⟨_, covered, closed⟩ :=
      reachFrom_closed index ∅ roots.toList (by simp [WalkFrontier])
    exact reached.mem_of_closed
      (fun root member => covered root (ExtTreeSet.mem_toList.mpr member)) closed

end Walk

-----------------------------------------------------------------------------------------
-- Sweeping
-----------------------------------------------------------------------------------------

namespace Index

/-- `swept` is what remains of `index` when everything out of reach of `roots` is dropped. -/
def IsSweepOf (swept index : Index) (roots : IdSet) : Prop :=
  ∀ (id : String) (node : Instance),
    swept[id]? = some node ↔ index[id]? = some node ∧ Reaches index roots id

theorem without_unreachable_isSweepOf (index : Index) (roots : IdSet)
    : (index.without (index.unreachable roots)).IsSweepOf index roots := by
  intro id node
  rw [getElem?_without_eq_some_iff]
  refine and_congr_right fun found => ?_
  have indexed : id ∈ index.keys := ExtTreeMap.mem_keys.mpr (mem_of_getElem? found)
  simp [unreachable, indexed]

namespace IsSweepOf

variable {swept index : Index} {roots : IdSet} {id : String}

/-- What is left after a sweep is exactly what was reached before it. -/
theorem mem_iff (sweep : swept.IsSweepOf index roots) : id ∈ swept ↔ Reaches index roots id := by
  constructor
  · intro indexed
    obtain ⟨node, found⟩ := (swept.mem_iff_exists id).mp indexed
    exact ((sweep id node).mp found).2
  · intro reached
    obtain ⟨node, found⟩ := (index.mem_iff_exists id).mp reached.indexed
    exact mem_of_getElem? ((sweep id node).mpr ⟨found, reached⟩)

/-- What is left after a sweep answers as before. -/
theorem getElem?_eq (sweep : swept.IsSweepOf index roots) (reached : Reaches index roots id)
    : swept[id]? = index[id]? := by
  obtain ⟨node, found⟩ := (index.mem_iff_exists id).mp reached.indexed
  rw [found, (sweep id node).mpr ⟨found, reached⟩]

/-- A sweep keeps every path from the roots and adds none. Witness: induction on the path in
either index; every instance on it is reached and therefore left in place.
-/
theorem reaches_iff (sweep : swept.IsSweepOf index roots)
    : Reaches swept roots id ↔ Reaches index roots id := by
  constructor
  · intro reached
    exact sweep.mem_iff.mp reached.indexed
  · intro reached
    induction reached with
    | root member indexed => exact .root member (sweep.mem_iff.mpr (.root member indexed))
    | @owned owner id before lists indexed ih =>
        have kept := sweep.getElem?_eq before
        obtain ⟨holder, found, lists'⟩ := (index.mem_ownedIds_iff owner id).mp lists
        exact ih.listed (kept.trans found) lists' (sweep.mem_iff.mpr (.owned before lists indexed))

/-- After a sweep the roots reach everything that is left. -/
theorem mem_iff_reaches (sweep : swept.IsSweepOf index roots)
    : id ∈ swept ↔ Reaches swept roots id :=
  sweep.mem_iff.trans sweep.reaches_iff.symm

/-- An index has only one sweep for its roots, by extensionality. -/
theorem unique {other : Index} (sweep : swept.IsSweepOf index roots)
    (again : other.IsSweepOf index roots)
    : swept = other :=
  ext_of_forall fun id node => (sweep id node).trans (again id node).symm

end IsSweepOf

end Index

end ModelRepository
