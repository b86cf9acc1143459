import ModelRepository.Proofs.Grouping
import ModelRepository.Proofs.Index.Lookup
import ModelRepository.Tables

/-! What writes to the tables leave in them.
Every write touches the rows of one repository only, found by its name in the addresses, and all
of them hold that repository afterwards. `Tables.Replaces` says so row by row; for the change set
of a write on a repository it takes that the rows held the repository before.
-/

namespace ModelRepository

open Std

open Binary (Bytes)

-----------------------------------------------------------------------------------------
-- Scans of addresses
-----------------------------------------------------------------------------------------

namespace NodeAddress

variable {repository : String} {address other : NodeAddress}

theorem compare_eq (a b : NodeAddress)
    : compare a b = (compare a.repository b.repository).then (compare a.id b.id) :=
  rfl

/-- An address comes before the least one of a repository exactly when its repository comes before
that one, since no identifier comes before the empty one.
-/
theorem compare_least_eq_lt_iff (address : NodeAddress) (repository : String)
    : compare address ⟨repository, ""⟩ = .lt ↔ compare address.repository repository = .lt := by
  have least (before : compare address.id "" = .lt) : False := by
    have less : address.id < "" := compareOfLessAndEq_eq_lt.mp before
    exact List.not_lt_nil address.id.toList less
  rw [compare_eq, Ordering.then_eq_lt]
  exact or_iff_left fun both => least both.2

/-- Addresses in ascending order have their repositories in ascending order. -/
theorem isLE_of_compare_eq_lt (before : compare address other = .lt)
    : (compare address.repository other.repository).isLE := by
  rw [compare_eq, Ordering.then_eq_lt] at before
  rcases before with less | ⟨same, -⟩
  · rw [less]
    rfl
  · rw [same]
    rfl

end NodeAddress

namespace Tables

variable {repository id : String} {addresses : List NodeAddress}

/-- Up to the first address of another repository the scan misses none, since all behind that one
belong to repositories that come later.
-/
theorem mem_takeWhile_iff
    (sorted : addresses.Pairwise fun a b => compare a b = .lt)
    (later : ∀ address ∈ addresses, compare address.repository repository ≠ .lt)
    : (⟨repository, id⟩ : NodeAddress) ∈ addresses.takeWhile (·.repository = repository)
      ↔ ⟨repository, id⟩ ∈ addresses := by
  induction addresses with
  | nil => simp
  | cons head tail ih =>
      obtain ⟨before, sorted⟩ := List.pairwise_cons.mp sorted
      obtain ⟨notLess, later⟩ := List.forall_mem_cons.mp later
      by_cases same : head.repository = repository
      · simp [same, ih sorted later]
      · have absent : (⟨repository, id⟩ : NodeAddress) ∉ head :: tail := by
          rintro (_ | ⟨_, member⟩)
          · exact same rfl
          · have between := NodeAddress.isLE_of_compare_eq_lt (before _ member)
            cases order : compare head.repository repository with
            | lt => exact notLess order
            | eq => exact same (LawfulEqCmp.eq_of_compare order)
            | gt => simp [order] at between
        simp [same, absent]

/-- The scan finds exactly the identifiers under the repository, whatever other names its name
begins or is the beginning of.
-/
theorem mem_idsUnder_iff (sorted : addresses.Pairwise fun a b => compare a b = .lt)
    : id ∈ idsUnder repository addresses ↔ ⟨repository, id⟩ ∈ addresses := by
  have found (scanned : List NodeAddress)
      : id ∈ (scanned.takeWhile (·.repository = repository)).map NodeAddress.id
        ↔ ⟨repository, id⟩ ∈ scanned.takeWhile (·.repository = repository) := by
    rw [List.mem_map]
    constructor
    · rintro ⟨⟨owner, _⟩, member, rfl⟩
      have same : owner = repository := by
        simpa using List.all_eq_true.mp List.all_takeWhile _ member
      exact same ▸ member
    · exact fun member => ⟨_, member, rfl⟩
  unfold idsUnder
  rw [found]
  induction addresses with
  | nil => simp
  | cons head tail ih =>
      obtain ⟨before, sortedTail⟩ := List.pairwise_cons.mp sorted
      by_cases less : compare head ⟨repository, ""⟩ = .lt
      · have other : head ≠ ⟨repository, id⟩ := by
          rintro rfl
          exact absurd ((NodeAddress.compare_least_eq_lt_iff _ _).mp less) (by simp)
        simp [less, ih sortedTail, other.symm]
      · rw [List.dropWhile_cons_of_neg (by simpa using less)]
        refine mem_takeWhile_iff sorted (List.forall_mem_cons.mpr ?_)
        rw [NodeAddress.compare_least_eq_lt_iff] at less
        refine ⟨less, fun address member lower => less ?_⟩
        exact TransCmp.lt_of_isLE_of_lt (NodeAddress.isLE_of_compare_eq_lt (before _ member)) lower

-----------------------------------------------------------------------------------------
-- Runs over rows
-----------------------------------------------------------------------------------------

theorem getElem?_foldl_erase (rows : ExtTreeMap NodeAddress Bytes) (ids : List String)
    (repository : String) (address : NodeAddress)
    : (ids.foldl (fun rows id => rows.erase ⟨repository, id⟩) rows)[address]?
      = if address.repository = repository ∧ address.id ∈ ids then none else rows[address]? := by
  induction ids generalizing rows with
  | nil => simp
  | cons head tail ih =>
      obtain ⟨owner, id⟩ := address
      rw [List.foldl_cons, ih, ExtTreeMap.getElem?_erase]
      simp only [LawfulEqCmp.compare_eq_iff_eq, NodeAddress.mk.injEq, List.mem_cons]
      grind

theorem mem_foldl_erase (rows : ExtTreeSet NodeAddress) (ids : List String) (repository : String)
    (address : NodeAddress)
    : address ∈ ids.foldl (fun rows id => rows.erase ⟨repository, id⟩) rows
      ↔ address ∈ rows ∧ ¬ (address.repository = repository ∧ address.id ∈ ids) := by
  induction ids generalizing rows with
  | nil => simp
  | cons head tail ih =>
      obtain ⟨owner, id⟩ := address
      rw [List.foldl_cons, ih, ExtTreeSet.mem_erase]
      simp only [ne_eq, LawfulEqCmp.compare_eq_iff_eq, NodeAddress.mk.injEq, List.mem_cons]
      grind

/-- Partitions are put without touching any other row. -/
theorem foldl_putPartition (tables : Tables) (repository : String) (ids : List String)
    : ids.foldl (fun tables id => tables.putPartition repository id) tables
      = { tables with
          partitions := ids.foldl (fun rows id => rows.insert ⟨repository, id⟩)
            tables.partitions } := by
  induction ids generalizing tables with
  | nil => rfl
  | cons head tail ih => exact ih _

theorem mem_foldl_insert (rows : ExtTreeSet NodeAddress) (ids : List String) (repository : String)
    (address : NodeAddress)
    : address ∈ ids.foldl (fun rows id => rows.insert ⟨repository, id⟩) rows
      ↔ address ∈ rows ∨ address.repository = repository ∧ address.id ∈ ids := by
  induction ids generalizing rows with
  | nil => simp
  | cons head tail ih =>
      obtain ⟨owner, id⟩ := address
      rw [List.foldl_cons, ih, ExtTreeSet.mem_insert]
      simp only [LawfulEqCmp.compare_eq_iff_eq, NodeAddress.mk.injEq, List.mem_cons]
      grind

/-- Nodes are put without touching any other row. -/
theorem foldl_putNode (tables : Tables) (repository : String) (entries : List (String × Instance))
    : entries.foldl (fun tables entry => tables.putNode repository entry.1 entry.2) tables
      = { tables with
          nodes := entries.foldl
            (fun rows entry => rows.insert ⟨repository, entry.1⟩ (Binary.node.encode entry.2))
            tables.nodes } := by
  induction entries generalizing tables with
  | nil => rfl
  | cons head tail ih => exact ih _

/-- Rows put for entries of an index hold what the index holds. -/
theorem getElem?_foldl_insert {index : Index} (rows : ExtTreeMap NodeAddress Bytes)
    {entries : List (String × Instance)}
    (stored : ∀ entry ∈ entries, index[entry.1]? = some entry.2) (repository : String)
    (address : NodeAddress)
    : (entries.foldl
          (fun rows entry => rows.insert ⟨repository, entry.1⟩ (Binary.node.encode entry.2))
          rows)[address]?
      = if address.repository = repository ∧ address.id ∈ entries.map Prod.fst then
          index[address.id]?.map Binary.node.encode
        else rows[address]? := by
  induction entries generalizing rows with
  | nil => simp
  | cons head tail ih =>
      obtain ⟨found, stored⟩ := List.forall_mem_cons.mp stored
      obtain ⟨owner, id⟩ := address
      rw [List.foldl_cons, ih _ stored, ExtTreeMap.getElem?_insert]
      simp only [LawfulEqCmp.compare_eq_iff_eq, NodeAddress.mk.injEq, List.map_cons,
        List.mem_cons]
      grind

theorem getElem?_dropContent (tables : Tables) (repository : String) (address : NodeAddress)
    : (tables.dropContent repository).nodes[address]?
      = if address.repository = repository then none else tables.nodes[address]? := by
  have scanned : address.id ∈ idsUnder repository tables.nodes.keys
      ↔ ⟨repository, address.id⟩ ∈ tables.nodes.keys :=
    mem_idsUnder_iff ExtTreeMap.ordered_keys
  simp only [dropContent, getElem?_foldl_erase, scanned, ExtTreeMap.mem_keys]
  by_cases same : address.repository = repository
  · subst same
    by_cases stored : address ∈ tables.nodes
    · simp [stored]
    · simp [stored]
  · simp [same]

theorem mem_dropContent_iff (tables : Tables) (repository : String) (address : NodeAddress)
    : address ∈ (tables.dropContent repository).partitions
      ↔ address ∈ tables.partitions ∧ address.repository ≠ repository := by
  have scanned : address.id ∈ idsUnder repository tables.partitions.toList
      ↔ ⟨repository, address.id⟩ ∈ tables.partitions.toList :=
    mem_idsUnder_iff ExtTreeSet.ordered_toList
  simp only [dropContent, mem_foldl_erase, scanned, ExtTreeSet.mem_toList]
  by_cases same : address.repository = repository
  · subst same
    simp
  · simp [same]

-----------------------------------------------------------------------------------------
-- Whole repositories
-----------------------------------------------------------------------------------------

/-- `after` has the rows of `content` under `name`, or none under it, and all other rows from
`before`.
-/
structure Replaces (before after : Tables) (name : String) (content : Option Repository)
    : Prop where
  records
    : ∀ owner,
        after.records[owner]?
        = if owner = name then
            content.map fun repository => Record.layout.encode (.of repository)
          else before.records[owner]?
  nodes
    : ∀ address : NodeAddress,
        after.nodes[address]?
        = if address.repository = name then
            (content.bind (·.nodes[address.id]?)).map Binary.node.encode
          else before.nodes[address]?
  partitions
    : ∀ address : NodeAddress,
        address ∈ after.partitions
        ↔ if address.repository = name then
            ∃ repository ∈ content, address.id ∈ repository.partitions
          else address ∈ before.partitions

/-- A deletion leaves no row of the repository. -/
theorem delete_replaces (tables : Tables) (name : String)
    : tables.Replaces (tables.delete name) name none := by
  refine ⟨?_, ?_, ?_⟩
  · intro owner
    exact getElem?_erase_eq_ite tables.records name owner
  · intro address
    rw [delete, getElem?_dropContent]
    rfl
  · intro address
    rw [delete, mem_dropContent_iff]
    split <;> simp [*]

/-- A full write leaves the rows of the repository in place of any others under its name. -/
theorem save_replaces (tables : Tables) (repository : Repository)
    : tables.Replaces (tables.save repository) repository.name (some repository) := by
  have stored : ∀ entry ∈ repository.nodes.toList, repository.nodes[entry.1]? = some entry.2 :=
    fun _ member => ExtTreeMap.mem_toList_iff_getElem?_eq_some.mp member
  have saved : tables.save repository
      = ((repository.partitions.toList.foldl
          (fun tables id => tables.putPartition repository.name id)
          (repository.nodes.toList.foldl
            (fun tables entry => tables.putNode repository.name entry.1 entry.2)
            (tables.dropContent repository.name))).putRecord repository) := by
    rw [save, ExtTreeMap.foldl_eq_foldl_toList, ExtTreeSet.foldl_eq_foldl_toList]
  rw [saved, foldl_putNode, foldl_putPartition]
  refine ⟨?_, ?_, ?_⟩
  · intro owner
    exact getElem?_insert_eq_ite tables.records repository.name owner _
  · intro address
    have listed : address.id ∈ repository.nodes.toList.map Prod.fst
        ↔ address.id ∈ repository.nodes := by
      rw [ExtTreeMap.map_fst_toList_eq_keys, ExtTreeMap.mem_keys]
    simp only [putRecord, getElem?_foldl_insert _ stored, getElem?_dropContent, listed]
    by_cases same : address.repository = repository.name
    · by_cases indexed : address.id ∈ repository.nodes <;> simp [same, indexed]
    · simp [same]
  · intro address
    simp only [putRecord, mem_foldl_insert, mem_dropContent_iff, ExtTreeSet.mem_toList]
    by_cases same : address.repository = repository.name <;> simp [same]

end Tables

-----------------------------------------------------------------------------------------
-- Change sets
-----------------------------------------------------------------------------------------

/-- The change set leads from the content of `before` to that of `after`: what it names as upserted
is indexed, what it names as deleted is not, and what it does not name is as it was.
-/
structure Changes.Leads (changes : Changes) (before after : Repository) : Prop where
  upserted : ∀ id ∈ changes.upserted, id ∈ after.nodes
  deleted : ∀ id ∈ changes.deleted, id ∉ after.nodes
  unchanged
    : ∀ id, id ∉ changes.upserted → id ∉ changes.deleted → after.nodes[id]? = before.nodes[id]?
  partitions
    : ∀ id,
        id ∈ after.partitions
        ↔ id ∈ changes.partitionsAdded
          ∨ id ∈ before.partitions ∧ id ∉ changes.partitionsRemoved

namespace Tables

/-- The rows under a name hold the nodes and partitions of the repository. -/
structure HoldContent (tables : Tables) (name : String) (repository : Repository) : Prop where
  nodes
    : ∀ address : NodeAddress,
        address.repository = name
        → tables.nodes[address]? = repository.nodes[address.id]?.map Binary.node.encode
  partitions
    : ∀ address : NodeAddress,
        address.repository = name
        → (address ∈ tables.partitions ↔ address.id ∈ repository.partitions)

/-- The instances that an index holds among some identifiers. -/
def storedAmong (index : Index) (ids : List String) : List (String × Instance) :=
  ids.filterMap fun id => index[id]?.map (id, ·)

theorem getElem?_of_mem_storedAmong {index : Index} {ids : List String}
    {entry : String × Instance} (member : entry ∈ storedAmong index ids)
    : index[entry.1]? = some entry.2 := by
  obtain ⟨id, -, found⟩ := List.mem_filterMap.mp member
  obtain ⟨node, stored, rfl⟩ := Option.map_eq_some_iff.mp found
  exact stored

theorem mem_map_storedAmong_iff (index : Index) (ids : List String) (id : String)
    : id ∈ (storedAmong index ids).map Prod.fst ↔ id ∈ ids ∧ id ∈ index := by
  simp [storedAmong, Index.mem_iff_exists]

/-- Putting what a repository holds among some identifiers passes over the others. -/
theorem foldl_putStored (tables : Tables) (repository : Repository) (ids : List String)
    : ids.foldl (fun tables id => tables.putStored repository id) tables
      = (storedAmong repository.nodes ids).foldl
          (fun tables entry => tables.putNode repository.name entry.1 entry.2) tables := by
  induction ids generalizing tables with
  | nil => rfl
  | cons head tail ih =>
      rw [List.foldl_cons, ih]
      cases stored : repository.nodes[head]? <;> simp [putStored, storedAmong, stored]

/-- Rows that held the repository before a write hold it afterwards. Witness: rows under upserted
identifiers are put from the repository, those under deleted ones are erased, and all others hold
what both repositories have there.
-/
theorem apply_replaces {tables : Tables} {before after : Repository} {changes : Changes}
    (leads : changes.Leads before after) (held : tables.HoldContent after.name before)
    : tables.Replaces (tables.apply after changes) after.name (some after) := by
  simp only [apply, ExtTreeSet.foldl_eq_foldl_toList, foldl_putStored, foldl_putNode,
    foldl_putPartition]
  refine ⟨?_, ?_, ?_⟩
  · intro owner
    exact getElem?_insert_eq_ite tables.records after.name owner _
  · intro address
    simp only [putRecord, getElem?_foldl_insert _ fun _ => getElem?_of_mem_storedAmong,
      getElem?_foldl_erase, mem_map_storedAmong_iff, ExtTreeSet.mem_toList]
    by_cases same : address.repository = after.name
    · simp only [same, true_and, if_true, Option.bind_some, held.nodes address same]
      by_cases upserted : address.id ∈ changes.upserted
      · simp [upserted, leads.upserted address.id upserted]
      · by_cases deleted : address.id ∈ changes.deleted
        · simp [upserted, deleted, leads.deleted address.id deleted]
        · simp [upserted, deleted, leads.unchanged address.id upserted deleted]
    · simp [same]
  · intro address
    simp only [putRecord, mem_foldl_insert, mem_foldl_erase, ExtTreeSet.mem_toList]
    by_cases same : address.repository = after.name
    · simp [same, held.partitions address same, leads.partitions]
      grind
    · simp [same]

end Tables

end ModelRepository
