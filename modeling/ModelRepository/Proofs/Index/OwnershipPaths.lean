import ModelRepository.Proofs.Index.Ownership

/-! The ways in which roots hold a node in place, slot by slot.
Several ways may lead to one node: it may stand in several lists or twice in one list, and a root
may be listed as well. If lists agree with the recorded parents and repeat nothing, there is one
way to each node that is reached, and its last slot belongs to the recorded parent.
-/

namespace ModelRepository

open Std

/-- A place in the lists of one instance. Positions count through the children, containment by
containment, and then through the annotations.
-/
structure Slot where
  owner : String
  position : Nat
  deriving DecidableEq

/-- The slots of `path` lead from one of `roots` to `id`. They are listed from the one that holds
`id` back to the one of the root, so a root by itself has the empty path.
-/
inductive OwnershipPath (index : Index) (roots : IdSet) : List Slot → String → Prop
  | root {id : String} (registered : id ∈ roots) : OwnershipPath index roots [] id
  | slot {path : List Slot} {owner id : String} {position : Nat}
    (above : OwnershipPath index roots path owner)
    (held : (index.ownedIds owner)[position]? = some id)
    : OwnershipPath index roots (⟨owner, position⟩ :: path) id

variable {index : Index} {roots : IdSet} {path other : List Slot} {id owner : String}

/-- What a path leads to is reached, by induction on the path; an owner is indexed because it lists
something.
-/
theorem OwnershipPath.reaches (held : OwnershipPath index roots path id) (indexed : id ∈ index)
    : Reaches index roots id := by
  induction held with
  | root registered => exact .root registered indexed
  | @slot _ owner id _ _ held ih =>
      have lists : id ∈ index.ownedIds owner := List.mem_of_getElem? held
      obtain ⟨holder, found, -⟩ := (index.mem_ownedIds_iff owner id).mp lists
      exact .owned (ih (Index.mem_of_getElem? found)) lists indexed

/-- A path to an owner goes on through each of its slots. -/
theorem OwnershipPath.exists_slot (above : OwnershipPath index roots path owner)
    (lists : id ∈ index.ownedIds owner)
    : ∃ position, OwnershipPath index roots (⟨owner, position⟩ :: path) id := by
  obtain ⟨position, held⟩ := List.getElem?_of_mem lists
  exact ⟨position, .slot above held⟩

theorem Reaches.exists_path (reached : Reaches index roots id)
    : ∃ path, OwnershipPath index roots path id := by
  induction reached with
  | root registered _ => exact ⟨[], .root registered⟩
  | owned _ lists _ ih =>
      obtain ⟨path, above⟩ := ih
      obtain ⟨position, held⟩ := above.exists_slot lists
      exact ⟨_, held⟩

namespace Index.Linked

/-- The recorded parent is the owner of the last slot; a root records none, and has the empty path
alone.
-/
theorem parentOf?_eq_of_path (linked : index.Linked roots)
    (held : OwnershipPath index roots path id)
    : index.parentOf? id = path.head?.map Slot.owner := by
  cases held with
  | root registered => exact (linked.roots id registered).2
  | slot _ held => exact linked.parentOf?_eq (List.mem_of_getElem? held)

/-- No two paths lead to one node. Witness: induction on one of them; the recorded parent tells
whether there is a last slot and whose it is, and the position follows since lists repeat nothing.
-/
theorem path_unique (linked : index.Linked roots) (distinct : index.Distinct)
    (held : OwnershipPath index roots path id) (again : OwnershipPath index roots other id)
    : path = other := by
  induction held generalizing other with
  | root registered =>
      have recorded := linked.parentOf?_eq_of_path again
      rw [(linked.roots _ registered).2] at recorded
      cases again with
      | root _ => rfl
      | slot _ _ => cases recorded
  | @slot path owner id position above held ih =>
      have recorded := linked.parentOf?_eq_of_path (.slot above held)
      rw [linked.parentOf?_eq_of_path again] at recorded
      cases again with
      | root _ => cases recorded
      | @slot path' owner' _ position' above' held' =>
          obtain rfl : owner' = owner := Option.some.inj recorded
          obtain ⟨holder, found, -⟩ :=
            (index.mem_ownedIds_iff owner' id).mp (List.mem_of_getElem? held)
          have owned : index.ownedIds owner' = holder.ownedIds := by
            simp [ownedIds, found]
          rw [owned] at held held'
          have inRange : position < holder.ownedIds.length :=
            (List.getElem?_eq_some_iff.mp held).1
          have same : position = position' :=
            (List.getElem?_inj inRange (distinct owner' holder found)).mp (held.trans held'.symm)
          rw [same, ih above']

end Index.Linked

end ModelRepository
