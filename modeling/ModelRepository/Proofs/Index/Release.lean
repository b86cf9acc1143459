import ModelRepository.Proofs.Index.Lookup

/-! Nodes that leave their owners. Striking identifiers from the lists of an instance touches
neither its own record nor its parent, so whether a node leaves its owner can be read from the
index before, between and after any number of such strikes.
-/

namespace ModelRepository

open Std

-----------------------------------------------------------------------------------------
-- Striking identifiers from one instance
-----------------------------------------------------------------------------------------

namespace Instance

/-- Strikes all of `ids` from every containment and from the annotations. -/
def disownAll (node : Instance) (ids : List String) : Instance :=
  { node with
    containments := node.containments.map fun containment =>
      { containment with children := containment.children.filter (· ∉ ids) }
    annotations := node.annotations.filter (· ∉ ids) }

@[simp]
theorem disownAll_parent (node : Instance) (ids : List String)
    : (node.disownAll ids).parent = node.parent :=
  rfl

@[simp]
theorem disownAll_annotations (node : Instance) (ids : List String)
    : (node.disownAll ids).annotations = node.annotations.filter (· ∉ ids) :=
  rfl

/-- Striking identifiers filters the owned ones, list by list. -/
@[simp]
theorem disownAll_ownedIds (node : Instance) (ids : List String)
    : (node.disownAll ids).ownedIds = node.ownedIds.filter (· ∉ ids) := by
  simp [ownedIds, childIds, disownAll, List.flatMap_map, List.filter_flatMap]

theorem disown_eq_disownAll (node : Instance) (id : String)
    : node.disown id = node.disownAll [id] := by
  simp [disown, disownAll]

/-- Striking two lists of identifiers strikes all of them at once. -/
theorem disownAll_append (node : Instance) (ids more : List String)
    : node.disownAll (ids ++ more) = (node.disownAll ids).disownAll more := by
  simp [disownAll, List.filter_filter, Bool.and_comm]

/-- Only the members of the struck list count, filter by filter. -/
theorem disownAll_congr (node : Instance) {ids others : List String}
    (same : ∀ id, id ∈ ids ↔ id ∈ others)
    : node.disownAll ids = node.disownAll others := by
  simp [disownAll, same]

/-- Striking changes nothing exactly when none of the identifiers is listed. Witness: the owned
identifiers of an unchanged instance survive their filter.
-/
theorem disownAll_eq_self_iff (node : Instance) (ids : List String)
    : node.disownAll ids = node ↔ ∀ id ∈ ids, id ∉ node.ownedIds := by
  constructor
  · intro same id member listed
    rw [← same, disownAll_ownedIds] at listed
    simp [member] at listed
  · intro unlisted
    have kept : ∀ listed : List String, (∀ id ∈ listed, id ∈ node.ownedIds) →
        listed.filter (· ∉ ids) = listed := by
      intro listed owned
      rw [List.filter_eq_self]
      intro id member
      simpa using fun struck => unlisted id struck (owned id member)
    have annotations : node.annotations.filter (· ∉ ids) = node.annotations :=
      kept _ fun id member => List.mem_append_right _ member
    have containments : node.containments.map (fun containment =>
        { containment with children := containment.children.filter (· ∉ ids) })
          = node.containments := by
      refine .trans (List.map_congr_left fun containment member => ?_) (List.map_id' _)
      have children := kept containment.children fun id listed =>
        List.mem_append_left _ (List.mem_flatMap.mpr ⟨containment, member, listed⟩)
      simp only [children]
    unfold disownAll
    rw [annotations, containments]

@[simp]
theorem disownAll_nil (node : Instance) : node.disownAll [] = node :=
  (node.disownAll_eq_self_iff []).mpr (by simp)

end Instance

-----------------------------------------------------------------------------------------
-- Leaving an owner
-----------------------------------------------------------------------------------------

namespace Index

/-- A submitted node leaves `owner` when the index records `owner` as its parent and the
submitted instance does not.
-/
def leaves (index : Index) (owner : String) (node : Instance) : Bool :=
  index.parentOf? node.id = some owner && node.parent ≠ some owner

/-- The nodes of a batch that leave `owner`. -/
def leavers (index : Index) (batch : List Instance) (owner : String) : List String :=
  (batch.filter (index.leaves owner)).map Instance.id

theorem mem_leavers_iff (index : Index) (batch : List Instance) (owner id : String)
    : id ∈ index.leavers batch owner
      ↔ ∃ node ∈ batch,
          node.id = id ∧ index.parentOf? id = some owner ∧ node.parent ≠ some owner := by
  simp only [leavers, leaves, List.mem_map, List.mem_filter, Bool.and_eq_true,
    decide_eq_true_eq]
  constructor
  · rintro ⟨node, ⟨member, stored, moved⟩, rfl⟩
    exact ⟨node, member, rfl, stored, moved⟩
  · rintro ⟨node, member, rfl, stored, moved⟩
    exact ⟨node, ⟨member, stored, moved⟩, rfl⟩

@[simp]
theorem leavers_nil (index : Index) (owner : String) : index.leavers [] owner = [] :=
  rfl

theorem leavers_singleton (index : Index) (node : Instance) (owner : String)
    : index.leavers [node] owner = if index.leaves owner node then [node.id] else [] := by
  unfold leavers
  split <;> simp_all

/-- A node leaves one owner at most, the recorded parent. -/
theorem eq_of_leaves {index : Index} {node : Instance} {owner other : String}
    (leaving : index.leaves owner node = true) (again : index.leaves other node = true)
    : owner = other := by
  simp only [leaves, Bool.and_eq_true, decide_eq_true_eq] at leaving again
  exact Option.some.inj (leaving.1.symm.trans again.1)

theorem leavers_append (index : Index) (batch more : List Instance) (owner : String)
    : index.leavers (batch ++ more) owner
      = index.leavers batch owner ++ index.leavers more owner := by
  simp [leavers]

/-- Who leaves depends on the recorded parents alone. -/
theorem leavers_congr {left right : Index} (batch : List Instance) (owner : String)
    (same : ∀ id, left.parentOf? id = right.parentOf? id)
    : left.leavers batch owner = right.leavers batch owner := by
  have leaving : left.leaves owner = right.leaves owner := by
    funext node
    simp [leaves, same]
  simp [leavers, leaving]

/-- Strikes the leavers of a batch from all owners that are not submitted themselves. -/
def release (index : Index) (submitted : IdSet) (batch : List Instance) : Index :=
  index.map fun owner holder =>
    if submitted.contains owner then holder else holder.disownAll (index.leavers batch owner)

theorem getElem?_release_of_mem (index : Index) {submitted : IdSet} {batch : List Instance}
    {owner : String} (member : owner ∈ submitted)
    : (index.release submitted batch)[owner]? = index[owner]? := by
  simp [release, member]

theorem getElem?_release_of_not_mem (index : Index) {submitted : IdSet}
    {batch : List Instance} {owner : String} (absent : owner ∉ submitted)
    : (index.release submitted batch)[owner]?
      = index[owner]?.map (·.disownAll (index.leavers batch owner)) := by
  simp [release, absent]

/-- A release keeps every recorded parent, since striking does. -/
@[simp]
theorem parentOf?_release (index : Index) (submitted : IdSet) (batch : List Instance)
    (id : String)
    : (index.release submitted batch).parentOf? id = index.parentOf? id := by
  unfold parentOf? release
  rw [ExtTreeMap.getElem?_map]
  cases index[id]? with
  | none => rfl
  | some holder =>
      simp only [Option.map_some, Option.bind_some]
      split <;> rfl

@[simp]
theorem mem_release_iff (index : Index) (submitted : IdSet) (batch : List Instance) (id : String)
    : id ∈ index.release submitted batch ↔ id ∈ index := by
  simp [release]

theorem release_nil (index : Index) (submitted : IdSet) : index.release submitted [] = index := by
  refine ExtTreeMap.ext_getElem? fun owner => ?_
  by_cases member : owner ∈ submitted
  · exact index.getElem?_release_of_mem member
  · rw [index.getElem?_release_of_not_mem member]
    simp

/-- Releasing two batches one after the other releases the joined batch, since the first
release keeps the recorded parents that decide the second.
-/
theorem release_append (index : Index) (submitted : IdSet) (batch more : List Instance)
    : index.release submitted (batch ++ more)
      = (index.release submitted batch).release submitted more := by
  refine ExtTreeMap.ext_getElem? fun owner => ?_
  by_cases member : owner ∈ submitted
  · simp only [getElem?_release_of_mem _ member]
  · have stillLeaving : (index.release submitted batch).leavers more owner
        = index.leavers more owner :=
      leavers_congr more owner (index.parentOf?_release submitted batch)
    simp only [getElem?_release_of_not_mem _ member, leavers_append, stillLeaving,
      Option.map_map]
    congr 1
    funext holder
    exact holder.disownAll_append _ _

/-- A joined release differs from the start where its first part does or its second part still
strikes something, since nothing that was struck comes back.
-/
theorem release_append_differs_iff (index : Index) (submitted : IdSet)
    (batch more : List Instance) (owner : String)
    : (index.release submitted (batch ++ more))[owner]? ≠ index[owner]?
      ↔ (index.release submitted batch)[owner]? ≠ index[owner]?
        ∨ (index.release submitted (batch ++ more))[owner]?
            ≠ (index.release submitted batch)[owner]? := by
  by_cases member : owner ∈ submitted
  · simp [getElem?_release_of_mem _ member]
  · simp only [getElem?_release_of_not_mem _ member, leavers_append]
    cases index[owner]? with
    | none => simp
    | some holder =>
        simp only [Option.map_some, ne_eq, Option.some.injEq, holder.disownAll_eq_self_iff,
          List.mem_append]
        constructor
        · intro differs
          by_cases first : ∀ id ∈ index.leavers batch owner, id ∉ holder.ownedIds
          · refine Or.inr fun same => differs ?_
            rw [(holder.disownAll_eq_self_iff _).mpr first, holder.disownAll_eq_self_iff] at same
            simpa using same
          · exact Or.inl first
        · rintro (first | second) unlisted
          · exact first fun id struck => unlisted id (Or.inl struck)
          · refine second ?_
            rw [(holder.disownAll_eq_self_iff _).mpr fun id struck =>
                unlisted id (List.mem_append.mp struck),
              (holder.disownAll_eq_self_iff _).mpr fun id struck => unlisted id (Or.inl struck)]

end Index

end ModelRepository
