import ModelRepository.Proofs.Index.Reachability
import ModelRepository.Proofs.Retrieval.Collection

/-! A retrieval without a limit collects what its roots hold in place.
The walk of a retrieval follows paths and counts their edges, the sweep of a write follows owners
from the partitions and counts nothing. Both get to the same nodes.
-/

namespace ModelRepository

open Std

variable {index : Index} {roots : IdSet} {ids : List String} {root id : String} {taken : Nat}

/-- Whatever a path leads to is reached from its root, by induction on the path. -/
theorem Retrieval.Path.reaches (path : Path index root id taken) (registered : root ∈ roots)
    : Reaches index roots id := by
  induction path with
  | start indexed => exact .root registered indexed
  | annotated _ found lists indexed ih =>
      exact ih.listed found (List.mem_append_right _ lists) indexed
  | child _ found lists indexed ih => exact ih.listed found (List.mem_append_left _ lists) indexed

/-- Some path leads to whatever is reached, by induction on its owners: what an owner lists is one
of its children or one of its annotations.
-/
theorem Reaches.exists_walk (reached : Reaches index roots id)
    : ∃ root ∈ roots, ∃ taken, Retrieval.Path index root id taken := by
  induction reached with
  | root registered indexed => exact ⟨_, registered, 0, .start indexed⟩
  | @owned owner id _ lists indexed ih =>
      obtain ⟨root, registered, taken, path⟩ := ih
      obtain ⟨holder, found, listed⟩ := (index.mem_ownedIds_iff owner id).mp lists
      rcases List.mem_append.mp listed with child | annotation
      · exact ⟨root, registered, taken + 1, path.child found child indexed⟩
      · exact ⟨root, registered, taken, path.annotated found annotation indexed⟩

namespace Retrieval

/-- The order of an unlimited traversal lists exactly what its roots reach. -/
theorem IsTraversal.mem_iff_reaches {order : List String}
    (traversal : IsTraversal index ids Depth.unbounded.Permits order) (id : String)
    : id ∈ order ↔ Reaches index (IdSet.ofIds ids) id := by
  rw [traversal.reached]
  constructor
  · rintro ⟨root, requested, taken, path, -⟩
    exact path.reaches ((IdSet.mem_ofIds ids root).mpr requested)
  · intro reached
    obtain ⟨root, requested, taken, path⟩ := reached.exists_walk
    exact ⟨root, (IdSet.mem_ofIds ids root).mp requested, taken, path, trivial⟩

/-- An unlimited retrieval collects exactly the stored instances of what its roots reach. -/
theorem mem_collect_unbounded_iff (index : Index) (ids : List String) (node : Instance)
    : node ∈ collect index ids .unbounded
      ↔ ∃ id, index[id]? = some node ∧ Reaches index (IdSet.ofIds ids) id := by
  obtain ⟨order, traversal, collected⟩ := collect_isTraversal index ids .unbounded
  have listed : node ∈ collect index ids .unbounded
      ↔ ∃ id ∈ order, index[id]? = some node := by
    rw [← List.mem_map, ← collected]
    simp
  rw [listed]
  refine exists_congr fun id => ?_
  rw [traversal.mem_iff_reaches, and_comm]

end Retrieval

/-- All that a repository gives out at once is the stored instances of what its partitions reach. -/
theorem Repository.mem_retrieveAll_iff (repository : Repository) (node : Instance)
    : node ∈ repository.retrieveAll.instances
      ↔ ∃ id, repository.nodes[id]? = some node
          ∧ Reaches repository.nodes repository.partitions id := by
  have registry : IdSet.ofIds repository.partitions.toList = repository.partitions :=
    foldl_insert_toList repository.partitions
  have collected := Retrieval.mem_collect_unbounded_iff repository.nodes
    repository.partitions.toList node
  rw [registry] at collected
  exact collected

end ModelRepository
