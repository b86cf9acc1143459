import ModelRepository.Proofs.Index.Merge
import ModelRepository.Proofs.Index.Reachability

/-! What some of the roots reach, seen apart from the rest of an index.
A merge or a sweep acts on a whole index, but an index that answers alike below the roots, and
resolves nothing new there, is the same index as far as these roots can tell.
-/

namespace ModelRepository

open Std

/-- The identifiers that a partition reaches by itself. -/
def Index.heldBy (index : Index) (partition : String) : IdSet :=
  reachable index (IdSet.ofIds [partition])

@[simp]
theorem Index.mem_heldBy_iff (index : Index) (partition id : String)
    : id ∈ index.heldBy partition ↔ Reaches index (IdSet.ofIds [partition]) id :=
  mem_reachable_iff index (IdSet.ofIds [partition]) id

/-- An indexed partition holds itself. -/
theorem Index.mem_heldBy_self {index : Index} {partition : String} (indexed : partition ∈ index)
    : partition ∈ index.heldBy partition := by
  rw [mem_heldBy_iff]
  exact .root (by simp) indexed

/-- An indexed partition holds whatever it lists and is indexed. -/
theorem Index.mem_heldBy_of_listed {index : Index} {partition id : String}
    (indexed : partition ∈ index) (lists : id ∈ index.ownedIds partition) (known : id ∈ index)
    : id ∈ index.heldBy partition := by
  rw [mem_heldBy_iff]
  exact .owned (.root (by simp) indexed) lists known

/-- A partition holds nothing outside a list that has it and is closed under what is listed and
indexed.
-/
theorem Index.mem_of_mem_heldBy {index : Index} {partition id : String} (ids : List String)
    (rooted : partition ∈ ids)
    (closed : ∀ owner ∈ ids, ∀ owned ∈ index.ownedIds owner, owned ∈ index → owned ∈ ids)
    (held : id ∈ index.heldBy partition)
    : id ∈ ids := by
  rw [← IdSet.mem_ofIds ids id]
  rw [mem_heldBy_iff] at held
  refine held.mem_of_closed ?_ ?_
  · intro root registered _
    simp only [IdSet.mem_ofIds, List.mem_singleton] at registered ⊢
    exact registered ▸ rooted
  · intro owner member owned lists indexed
    simp only [IdSet.mem_ofIds] at member ⊢
    exact closed owner member owned lists indexed

variable {index middle other swept : Index} {roots more : IdSet} {batch : List Instance}
  {id owner : String}

-----------------------------------------------------------------------------------------
-- Reaching more
-----------------------------------------------------------------------------------------

namespace Reaches

/-- More roots reach more, by induction on the path. -/
theorem mono (reached : Reaches index roots id) (among : ∀ root ∈ roots, root ∈ more)
    : Reaches index more id := by
  induction reached with
  | root registered indexed => exact .root (among _ registered) indexed
  | owned _ lists indexed ih => exact .owned ih lists indexed

/-- A path leads through any index that holds the same instances along it, by induction on the
path.
-/
theorem of_stored (reached : Reaches index roots id)
    (stored : ∀ id, Reaches index roots id → other[id]? = index[id]?)
    : Reaches other roots id := by
  have indexed {id : String} (reached : Reaches index roots id) : id ∈ other := by
    obtain ⟨node, found⟩ := (index.mem_iff_exists id).mp reached.indexed
    exact Index.mem_of_getElem? ((stored id reached).trans found)
  induction reached with
  | root registered known => exact .root registered (indexed (.root registered known))
  | @owned owner id before lists known ih =>
      obtain ⟨holder, found, listed⟩ := (index.mem_ownedIds_iff owner id).mp lists
      exact ih.listed ((stored owner before).trans found) listed
        (indexed (.owned before lists known))

end Reaches

-----------------------------------------------------------------------------------------
-- The same below some roots
-----------------------------------------------------------------------------------------

namespace Index

/-- `other` answers like `index` for all that `roots` reach in `index`, and indexes nothing that is
missing there: neither a root nor what is listed on the way.
-/
structure SameBelow (index other : Index) (roots : IdSet) : Prop where
  stored : ∀ id, Reaches index roots id → other[id]? = index[id]?
  rooted : ∀ root ∈ roots, root ∈ other → root ∈ index
  resolved
    : ∀ owner,
        Reaches index roots owner → ∀ id ∈ index.ownedIds owner, id ∈ other → id ∈ index

theorem ownedIds_congr {left right : Index} (same : left[owner]? = right[owner]?)
    : left.ownedIds owner = right.ownedIds owner := by
  unfold ownedIds
  rw [same]

namespace SameBelow

/-- The roots reach the same in both. Witness: induction on the path in either index; a step in the
other one follows a list of the first, and what it leads to is not missing there.
-/
theorem reaches_iff (same : index.SameBelow other roots)
    : Reaches other roots id ↔ Reaches index roots id := by
  constructor
  · intro reached
    induction reached with
    | root registered indexed => exact .root registered (same.rooted _ registered indexed)
    | @owned owner id _ lists indexed ih =>
        rw [ownedIds_congr (same.stored owner ih)] at lists
        exact .owned ih lists (same.resolved owner ih id lists indexed)
  · intro reached
    exact reached.of_stored same.stored

theorem trans (same : index.SameBelow middle roots) (next : middle.SameBelow other roots)
    : index.SameBelow other roots := by
  refine ⟨?_, ?_, ?_⟩
  · intro id reached
    exact (next.stored id (same.reaches_iff.mpr reached)).trans (same.stored id reached)
  · intro root registered indexed
    exact same.rooted root registered (next.rooted root registered indexed)
  · intro owner reached id lists indexed
    have kept := ownedIds_congr (same.stored owner reached)
    refine same.resolved owner reached id lists ?_
    exact next.resolved owner (same.reaches_iff.mpr reached) id (kept ▸ lists) indexed

/-- Both have the same sweep, entry by entry. -/
theorem isSweepOf_iff (same : index.SameBelow other roots)
    : swept.IsSweepOf other roots ↔ swept.IsSweepOf index roots := by
  refine forall_congr' fun id => forall_congr' fun node => ?_
  have entries : (other[id]? = some node ∧ Reaches other roots id)
      ↔ (index[id]? = some node ∧ Reaches index roots id) := by
    rw [same.reaches_iff]
    exact and_congr_left fun reached => by rw [same.stored id reached]
  rw [entries]

theorem heldBy_eq {partition : String} (same : index.SameBelow other (IdSet.ofIds [partition]))
    : other.heldBy partition = index.heldBy partition := by
  refine ExtTreeSet.ext_mem fun id => ?_
  rw [mem_heldBy_iff, mem_heldBy_iff, same.reaches_iff]

end SameBelow

/-- A sweep leaves an index the same below each of its roots. -/
theorem IsSweepOf.sameBelow (sweep : swept.IsSweepOf index more)
    (among : ∀ root ∈ roots, root ∈ more)
    : index.SameBelow swept roots := by
  have left {id : String} (indexed : id ∈ swept) : id ∈ index := (sweep.mem_iff.mp indexed).indexed
  exact ⟨fun _ reached => sweep.getElem?_eq (reached.mono among),
    fun _ _ indexed => left indexed, fun _ _ _ _ indexed => left indexed⟩

-----------------------------------------------------------------------------------------
-- Merges apart from some roots
-----------------------------------------------------------------------------------------

/-- A batch that submits nothing within reach of the roots takes nothing away there either: an
owner can lose only what it lists, and that is within reach if it is stored.
-/
theorem getElem?_merge_of_apart (apart : ∀ node ∈ batch, ¬ Reaches index roots node.id)
    (reached : Reaches index roots id)
    : (index.merge batch)[id]? = index[id]? := by
  have absent : id ∉ batch.map Instance.id := by
    intro member
    obtain ⟨node, submitted, rfl⟩ := List.mem_map.mp member
    exact apart node submitted reached
  obtain ⟨holder, found⟩ := (index.mem_iff_exists id).mp reached.indexed
  rw [index.getElem?_merge_of_not_mem absent, found, Option.map_some, Option.some.injEq,
    holder.disownAll_eq_self_iff]
  intro leaver left lists
  obtain ⟨node, submitted, rfl, recorded, -⟩ := (index.mem_leavers_iff batch id leaver).mp left
  obtain ⟨stored, indexed, -⟩ := (index.parentOf?_eq_some_iff node.id id).mp recorded
  exact apart node submitted (reached.listed found lists (mem_of_getElem? indexed))

/-- A batch that submits neither what the roots reach nor what is listed there leaves an index the
same below them.
-/
theorem sameBelow_merge (apart : ∀ node ∈ batch, ¬ Reaches index roots node.id)
    (indexed : ∀ root ∈ roots, root ∈ index)
    (unlisted : ∀ owner, Reaches index roots owner →
      ∀ node ∈ batch, node.id ∉ index.ownedIds owner)
    : index.SameBelow (index.merge batch) roots := by
  refine ⟨fun _ reached => getElem?_merge_of_apart apart reached,
    fun root registered _ => indexed root registered, ?_⟩
  intro owner reached id lists member
  rcases (index.mem_merge_iff batch id).mp member with known | submitted
  · exact known
  · obtain ⟨node, inBatch, rfl⟩ := List.mem_map.mp submitted
    exact (unlisted owner reached node inBatch lists).elim

end Index

end ModelRepository
