import ModelRepository.Proofs.Index.Locality
import ModelRepository.Proofs.Index.Ownership

/-! The trees of an index, one below each root.
What some roots reach together is what they hold one by one. If the lists agree with the recorded
parents, nothing stands in two trees, since the way up from a node does not depend on the root from
which it was reached.
-/

namespace ModelRepository

open Std

variable {index : Index} {partitions roots : IdSet} {owner first second id : String}

/-- Whatever is reached is held by the root from which its path starts, by induction on the path. -/
theorem Reaches.exists_heldBy (reached : Reaches index roots id)
    : ∃ root ∈ roots, id ∈ index.heldBy root := by
  induction reached with
  | @root root registered indexed =>
      exact ⟨root, registered, Index.mem_heldBy_self indexed⟩
  | owned _ lists indexed ih =>
      obtain ⟨root, registered, held⟩ := ih
      rw [Index.mem_heldBy_iff] at held
      exact ⟨root, registered, (index.mem_heldBy_iff root _).mpr (.owned held lists indexed)⟩

namespace Index

theorem reaches_iff_exists_heldBy
    : Reaches index roots id ↔ ∃ root ∈ roots, id ∈ index.heldBy root := by
  refine ⟨Reaches.exists_heldBy, ?_⟩
  rintro ⟨root, registered, held⟩
  rw [mem_heldBy_iff] at held
  refine held.mono fun other among => ?_
  simp only [IdSet.mem_ofIds, List.mem_singleton] at among
  exact among ▸ registered

theorem not_mem_heldBy_of_unreached {root : String} (unreached : ¬ Reaches index roots id)
    (registered : root ∈ roots)
    : id ∉ index.heldBy root :=
  fun held => unreached (reaches_iff_exists_heldBy.mpr ⟨root, registered, held⟩)

namespace Linked

/-- The one partition that holds a partition is itself, since nothing lists it. -/
theorem eq_of_mem_heldBy_of_mem (linked : index.Linked partitions) (registered : id ∈ partitions)
    (held : id ∈ index.heldBy first)
    : id = first := by
  rw [mem_heldBy_iff] at held
  cases held with
  | root among _ => simpa using among
  | owned _ lists _ => cases (linked.parentOf?_eq lists).symm.trans (linked.roots id registered).2

/-- No two partitions hold one node. Witness: induction on the path from one of them; both paths
come to a listed node by its recorded parent.
-/
theorem tree_unique (linked : index.Linked partitions) (registered : first ∈ partitions)
    (registeredToo : second ∈ partitions) (held : id ∈ index.heldBy first)
    (heldToo : id ∈ index.heldBy second)
    : first = second := by
  rw [mem_heldBy_iff] at held
  induction held with
  | root among _ =>
      obtain rfl := List.mem_singleton.mp ((IdSet.mem_ofIds [first] _).mp among)
      exact linked.eq_of_mem_heldBy_of_mem registered heldToo
  | @owned owner id before lists _ ih =>
      rw [mem_heldBy_iff] at heldToo
      cases heldToo with
      | root among _ =>
          obtain rfl := List.mem_singleton.mp ((IdSet.mem_ofIds [second] _).mp among)
          cases (linked.parentOf?_eq lists).symm.trans (linked.roots id registeredToo).2
      | @owned other _ beforeToo listsToo _ =>
          cases (linked.parentOf?_eq lists).symm.trans (linked.parentOf?_eq listsToo)
          exact ih ((index.mem_heldBy_iff second owner).mpr beforeToo)

end Linked

end Index

end ModelRepository
