import ModelRepository.Proofs.Retrieval.Walk
import ModelRepository.Repository

/-! What a retrieval returns: everything within the limit once, the requested nodes in front and
every other one behind a node that lists it.
-/

namespace ModelRepository

open Std

namespace Retrieval

variable {index : Index} {ids : List String} {depth : Depth} {visits : Visits}
  {order : List String} {waiting more : List (String × Nat)} {id : String} {used : Nat}
  {node : Instance}

-----------------------------------------------------------------------------------------
-- The requested identifiers
-----------------------------------------------------------------------------------------

/-- The collected identifiers, followed by the requests that still wait in front, begin with the
requested identifiers in order of first request.
-/
def Leads (index : Index) (ids order : List String) (waiting : List (String × Nat)) : Prop :=
  ∃ (requests : List String) (rest : List (String × Nat)),
    waiting = requests.map (·, 0) ++ rest
    ∧ (ids.filter (· ∈ index)).eraseDups
        <+: order ++ (requests.filter fun id => id ∈ index ∧ id ∉ order).eraseDups

theorem Leads.initial (index : Index) (ids : List String)
    : Leads index ids [] (ids.map (·, 0)) :=
  ⟨ids, [], by simp, by simp⟩

/-- Passing over a request keeps the lead, when the request is unknown or repeated. -/
theorem Leads.skip (leads : Leads index ids order ((id, used) :: waiting))
    (late : id ∈ index → id ∈ order)
    : Leads index ids order waiting := by
  obtain ⟨requests, rest, split, lead⟩ := leads
  cases requests with
  | nil => exact ⟨[], waiting, rfl, lead⟩
  | cons head tail =>
      simp only [List.map_cons, List.cons_append, List.cons.injEq, Prod.mk.injEq] at split
      obtain ⟨⟨rfl, -⟩, rfl⟩ := split
      have passed : ¬ (id ∈ index ∧ id ∉ order) := fun ⟨indexed, fresh⟩ => fresh (late indexed)
      rw [List.filter_cons_of_neg (by simpa using passed)] at lead
      exact ⟨tail, rest, rfl, lead⟩

/-- Collecting a node keeps the lead: either all requests have been served, or the node is the
first of those that wait.
-/
theorem Leads.collect (leads : Leads index ids order ((id, used) :: waiting))
    (indexed : id ∈ index) (fresh : id ∉ order)
    : Leads index ids (order ++ [id]) waiting := by
  obtain ⟨requests, rest, split, lead⟩ := leads
  cases requests with
  | nil =>
      refine ⟨[], waiting, rfl, ?_⟩
      simp only [List.filter_nil, List.eraseDups_nil, List.append_nil] at lead ⊢
      exact lead.trans (List.prefix_append order [id])
  | cons head tail =>
      simp only [List.map_cons, List.cons_append, List.cons.injEq, Prod.mk.injEq] at split
      obtain ⟨⟨rfl, -⟩, rfl⟩ := split
      refine ⟨tail, rest, rfl, ?_⟩
      have remaining : (tail.filter fun other => other ∈ index ∧ other ∉ order).filter (!· == id)
          = tail.filter fun other => other ∈ index ∧ other ∉ order ++ [id] := by
        rw [List.filter_filter]
        refine List.filter_congr fun other _ => ?_
        simp only [List.mem_append, List.mem_singleton]
        grind
      rw [List.filter_cons_of_pos (by simp [indexed, fresh]), List.eraseDups_cons, remaining]
        at lead
      simpa using lead

/-- What joins behind does not disturb the lead. -/
theorem Leads.append (leads : Leads index ids order waiting)
    : Leads index ids order (waiting ++ more) := by
  obtain ⟨requests, rest, rfl, lead⟩ := leads
  exact ⟨requests, rest ++ more, by simp, lead⟩

/-- Once nothing waits, the requested identifiers lead what has been collected. -/
theorem Leads.settled (leads : Leads index ids order [])
    : (ids.filter (· ∈ index)).eraseDups <+: order := by
  obtain ⟨requests, rest, nothing, lead⟩ := leads
  have served : requests = [] :=
    List.map_eq_nil_iff.mp (List.append_eq_nil_iff.mp nothing.symm).1
  simpa [served] using lead

-----------------------------------------------------------------------------------------
-- The order of first visits
-----------------------------------------------------------------------------------------

/-- `id` is requested or listed by one of the given owners. -/
def Introduced (index : Index) (ids owners : List String) (id : String) : Prop :=
  id ∈ ids ∨ ∃ owner ∈ owners, id ∈ index.ownedIds owner

theorem Introduced.append {owners : List String} (introduced : Introduced index ids owners id)
    (others : List String)
    : Introduced index ids (owners ++ others) id :=
  introduced.imp_right fun ⟨owner, member, lists⟩ =>
    ⟨owner, List.mem_append_left _ member, lists⟩

/-- The order in which a walk collects nodes: one entry for every visited node, and whatever is
collected or waits is requested or listed by a node collected before.
-/
structure Emission (index : Index) (ids : List String) (visits : Visits) (order : List String)
    (waiting : List (String × Nat)) : Prop where
  unique : order.Nodup
  visited : ∀ id, id ∈ order ↔ id ∈ visits
  indexed : ∀ id ∈ order, id ∈ index
  leads : Leads index ids order waiting
  pending : ∀ id used, (id, used) ∈ waiting → Introduced index ids order id
  ordered
    : ∀ before id after, order = before ++ id :: after → Introduced index ids before id

theorem Emission.initial (index : Index) (ids : List String)
    : Emission index ids ∅ [] (ids.map (·, 0)) := by
  refine ⟨List.nodup_nil, by simp, by simp, .initial index ids, ?_, by simp⟩
  intro id used waits
  simp only [List.mem_map, Prod.mk.injEq] at waits
  obtain ⟨_, requested, rfl, -⟩ := waits
  exact Or.inl requested

theorem Emission.skip (emission : Emission index ids visits order ((id, used) :: waiting))
    (late : id ∈ index → id ∈ visits)
    : Emission index ids visits order waiting where
  unique := emission.unique
  visited := emission.visited
  indexed := emission.indexed
  leads := emission.leads.skip fun indexed => (emission.visited id).mpr (late indexed)
  pending other later waits := emission.pending other later (List.mem_cons_of_mem _ waits)
  ordered := emission.ordered

/-- A first visit collects the node, and then what it lists may wait. -/
theorem Emission.visit (emission : Emission index ids visits order ((id, used) :: waiting))
    (found : index[id]? = some node) (fresh : id ∉ visits)
    : Emission index ids (visits.insert id used) (order ++ [id])
        (waiting ++ successors depth node used) := by
  have uncollected : id ∉ order := mt (emission.visited id).mp fresh
  refine ⟨?_, ?_, ?_, ?_, ?_, ?_⟩
  · rw [List.nodup_append]
    refine ⟨emission.unique, List.pairwise_singleton _ id, ?_⟩
    intro other member _ last same
    exact uncollected (List.mem_singleton.mp last ▸ same ▸ member)
  · intro other
    rw [List.mem_append, List.mem_singleton, emission.visited, ExtTreeMap.mem_insert,
      Std.compare_eq_iff_eq, eq_comm, or_comm]
  · intro other member
    rcases List.mem_append.mp member with earlier | last
    · exact emission.indexed other earlier
    · exact List.mem_singleton.mp last ▸ Index.mem_of_getElem? found
  · exact (emission.leads.collect (Index.mem_of_getElem? found) uncollected).append
  · intro other later waits
    rcases List.mem_append.mp waits with earlier | behind
    · exact (emission.pending other later (List.mem_cons_of_mem _ earlier)).append [id]
    · exact Or.inr ⟨id, by simp, mem_ownedIds_of_mem_successors found behind⟩
  · intro before other after split
    -- The node that was just collected ends the order, and any other one stood there before.
    rcases List.eq_nil_or_concat after with rfl | ⟨rest, last, rfl⟩
    · obtain ⟨rfl, same⟩ := List.append_inj' split rfl
      cases same
      exact emission.pending id used List.mem_cons_self
    · rw [List.concat_eq_append, ← List.cons_append, ← List.append_assoc] at split
      obtain ⟨same, -⟩ := List.append_inj' split rfl
      exact emission.ordered before other rest same

/-- A visit that is not the first collects nothing. -/
theorem Emission.revisit (emission : Emission index ids visits order ((id, used) :: waiting))
    (found : index[id]? = some node) (seen : id ∈ visits)
    : Emission index ids (visits.insert id used) order
        (waiting ++ successors depth node used) := by
  have collected : id ∈ order := (emission.visited id).mpr seen
  refine ⟨emission.unique, ?_, emission.indexed, ?_, ?_, emission.ordered⟩
  · intro other
    rw [emission.visited, ExtTreeMap.mem_insert, Std.compare_eq_iff_eq]
    exact ⟨Or.inr, fun either => either.elim (fun same => same ▸ seen) fun earlier => earlier⟩
  · exact (emission.leads.skip fun _ => collected).append
  · intro other later waits
    rcases List.mem_append.mp waits with earlier | behind
    · exact emission.pending other later (List.mem_cons_of_mem _ earlier)
    · exact Or.inr ⟨id, collected, mem_ownedIds_of_mem_successors found behind⟩

-----------------------------------------------------------------------------------------
-- The walk
-----------------------------------------------------------------------------------------

section

variable {found : List Instance} {front back : List (String × Nat)}

/-- The walk passes over an entry that names nothing indexed or comes too late. -/
theorem walk_skip (late : id ∈ index → ∃ earlier ≤ used, visits[id]? = some earlier)
    : walk index depth visits found ((id, used) :: front) back
      = walk index depth visits found front back := by
  rw [walk]
  split
  · rfl
  · rename_i node stored
    obtain ⟨earlier, sooner, seen⟩ := late (Index.mem_of_getElem? stored)
    split
    · simp_all
    · rename_i steps again
      cases seen.symm.trans again
      rw [if_neg (Nat.not_lt.mpr sooner)]

/-- The walk collects a node on its first visit. -/
theorem walk_visit (stored : index[id]? = some node) (fresh : visits[id]? = none)
    : walk index depth visits found ((id, used) :: front) back
      = walk index depth (visits.insert id used) (node :: found) front
          ((successors depth node used).reverse ++ back) := by
  rw [walk]
  split
  · simp_all
  · rename_i again found
    cases stored.symm.trans found
    split
    · rfl
    · simp_all

/-- The walk follows the lists of a node once more when it comes with fewer steps. -/
theorem walk_revisit {earlier : Nat} (stored : index[id]? = some node)
    (seen : visits[id]? = some earlier) (fewer : used < earlier)
    : walk index depth visits found ((id, used) :: front) back
      = walk index depth (visits.insert id used) found front
          ((successors depth node used).reverse ++ back) := by
  rw [walk]
  split
  · simp_all
  · rename_i again found
    cases stored.symm.trans found
    split
    · simp_all
    · rename_i steps again
      cases seen.symm.trans again
      rw [if_pos fewer]

end

/-- What holds of the labels, of the order of first visits and of the queue, whatever step a walk
takes: it passes over an entry, visits a node for the first time or comes back with fewer steps.
-/
structure IsWalkInvariant (index : Index) (depth : Depth)
    (Holds : Visits → List String → List (String × Nat) → Prop) : Prop where
  skip
    : ∀ {visits order waiting id used},
        Holds visits order ((id, used) :: waiting)
        → (id ∈ index → ∃ earlier ≤ used, visits[id]? = some earlier)
        → Holds visits order waiting
  visit
    : ∀ {visits order waiting id used node},
        Holds visits order ((id, used) :: waiting)
        → index[id]? = some node
        → visits[id]? = none
        → Holds (visits.insert id used) (order ++ [id]) (waiting ++ successors depth node used)
  revisit
    : ∀ {visits order waiting id used node earlier},
        Holds visits order ((id, used) :: waiting)
        → index[id]? = some node
        → visits[id]? = some earlier
        → used < earlier
        → Holds (visits.insert id used) order (waiting ++ successors depth node used)

/-- An invariant holds in the end, and what a walk has collected then are the stored instances of
the visited identifiers in the order of their first visits. Witness: induction along the walk, whose
queue is its front and then its back reversed.
-/
theorem IsWalkInvariant.preserved {Holds : Visits → List String → List (String × Nat) → Prop}
    (invariant : IsWalkInvariant index depth Holds) (visits : Visits) (found : List Instance)
    (front back : List (String × Nat)) (order : List String)
    (holds : Holds visits order (front ++ back.reverse))
    (collected : found.reverse.map some = order.map fun id => index[id]?)
    : ∃ finalVisits finalOrder,
        Holds finalVisits finalOrder []
        ∧ (walk index depth visits found front back).map some
            = finalOrder.map fun id => index[id]? := by
  -- Whatever joins the back stands at the end of the queue.
  have joined (front back behind : List (String × Nat))
      : front ++ (behind.reverse ++ back).reverse = front ++ back.reverse ++ behind := by
    simp
  induction visits, found, front, back using walk.induct index depth generalizing order with
  | case1 visits found =>
      rw [walk]
      exact ⟨visits, order, holds, collected⟩
  | case2 visits found last back ih =>
      rw [walk]
      exact ih order (by simpa using holds) collected
  | case3 visits found id used front back absent ih =>
      have late (indexed : id ∈ index) : ∃ earlier ≤ used, visits[id]? = some earlier :=
        (index.not_mem_of_getElem?_eq_none absent indexed).elim
      rw [walk_skip late]
      exact ih order (invariant.skip holds late) collected
  | case4 visits found id used front back node stored unseen ih =>
      rw [walk_visit stored unseen]
      refine ih (order ++ [id]) ?_ (by simp [collected, stored])
      rw [joined]
      exact invariant.visit holds stored unseen
  | case5 visits found id used front back node stored earlier seen fewer ih =>
      rw [walk_revisit stored seen fewer]
      refine ih order ?_ collected
      rw [joined]
      exact invariant.revisit holds stored seen fewer
  | case6 visits found id used front back node stored earlier seen late ih =>
      have sooner : ∃ steps ≤ used, visits[id]? = some steps :=
        ⟨earlier, Nat.le_of_not_lt late, seen⟩
      rw [walk_skip fun _ => sooner]
      exact ih order (invariant.skip holds fun _ => sooner) collected

theorem emission_isWalkInvariant (index : Index) (ids : List String) (depth : Depth)
    : IsWalkInvariant index depth (Emission index ids) where
  skip emission late := emission.skip fun indexed => by
    obtain ⟨earlier, -, seen⟩ := late indexed
    simp [ExtTreeMap.mem_iff_isSome_getElem?, seen]
  visit emission found unseen :=
    emission.visit found (by simp [ExtTreeMap.mem_iff_isSome_getElem?, unseen])
  revisit emission found seen _ :=
    emission.revisit found (by simp [ExtTreeMap.mem_iff_isSome_getElem?, seen])

theorem labels_isWalkInvariant (index : Index) (ids : List String) (depth : Depth)
    : IsWalkInvariant index depth fun visits _ waiting =>
        Labels index ids depth visits waiting where
  skip labels late := labels.skip late
  visit labels found unseen :=
    labels.visit found fun earlier seen => nomatch unseen.symm.trans seen
  revisit labels found seen fewer := labels.visit found fun steps again => by
    cases seen.symm.trans again
    exact Nat.le_of_lt fewer

theorem IsWalkInvariant.and {First Second : Visits → List String → List (String × Nat) → Prop}
    (first : IsWalkInvariant index depth First) (second : IsWalkInvariant index depth Second)
    : IsWalkInvariant index depth fun visits order waiting =>
        First visits order waiting ∧ Second visits order waiting where
  skip holds late := ⟨first.skip holds.1 late, second.skip holds.2 late⟩
  visit holds found unseen := ⟨first.visit holds.1 found unseen, second.visit holds.2 found unseen⟩
  revisit holds found seen fewer :=
    ⟨first.revisit holds.1 found seen fewer, second.revisit holds.2 found seen fewer⟩

/-- A walk ends with settled labels, and what it has collected then are the stored instances of
the visited identifiers in the order of their first visits.
-/
theorem walk_settles (index : Index) (depth : Depth) (visits : Visits) (found : List Instance)
    (front back : List (String × Nat)) (order : List String)
    (labels : Labels index ids depth visits (front ++ back.reverse))
    (emission : Emission index ids visits order (front ++ back.reverse))
    (collected : found.reverse.map some = order.map fun id => index[id]?)
    : ∃ finalVisits finalOrder,
        Labels index ids depth finalVisits []
        ∧ Emission index ids finalVisits finalOrder []
        ∧ (walk index depth visits found front back).map some
            = finalOrder.map fun id => index[id]? := by
  have invariant :=
    (labels_isWalkInvariant index ids depth).and (emission_isWalkInvariant index ids depth)
  obtain ⟨finalVisits, finalOrder, ⟨settled, listed⟩, finalCollected⟩ :=
    invariant.preserved visits found front back order ⟨labels, emission⟩ collected
  exact ⟨finalVisits, finalOrder, settled, listed, finalCollected⟩

-----------------------------------------------------------------------------------------
-- The collection
-----------------------------------------------------------------------------------------

/-- `order` lists once, and only, what some requested identifier has a permitted path to: the
requested identifiers first, in order of first request, and every other one behind an owner that
lists it.
-/
structure IsTraversal (index : Index) (ids : List String) (Permitted : Nat → Prop)
    (order : List String) : Prop where
  unique : order.Nodup
  reached
    : ∀ id,
        id ∈ order ↔ ∃ root ∈ ids, ∃ taken, Path index root id taken ∧ Permitted taken
  leading : (ids.filter (· ∈ index)).eraseDups <+: order
  introduced
    : ∀ before id after,
        order = before ++ id :: after
        → id ∈ ids ∨ ∃ owner ∈ before, id ∈ index.ownedIds owner

/-- A collection holds the stored instances of a traversal, in its order. Witness: the walk from
the requested identifiers, whose settled labels are exactly the arrivals.
-/
theorem collect_isTraversal (index : Index) (ids : List String) (depth : Depth)
    : ∃ order,
        IsTraversal index ids depth.Permits order
        ∧ (collect index ids depth).map some = order.map fun id => index[id]? := by
  obtain ⟨visits, order, labels, emission, collected⟩ :=
    walk_settles index depth ∅ [] (ids.map (·, 0)) [] []
      (by simpa using Labels.initial index ids depth) (by simpa using Emission.initial index ids)
      rfl
  refine ⟨order, ⟨emission.unique, ?_, emission.leads.settled, emission.ordered⟩, collected⟩
  intro id
  rw [emission.visited]
  constructor
  · intro visited
    obtain ⟨used, seen⟩ := Option.isSome_iff_exists.mp
      (ExtTreeMap.mem_iff_isSome_getElem?.mp visited)
    obtain ⟨root, requested, taken, path, permitted, -⟩ := labels.visited id used seen
    exact ⟨root, requested, taken, path, permitted⟩
  · rintro ⟨root, requested, taken, path, permitted⟩
    obtain ⟨steps, -, seen⟩ :=
      labels.visited_of_arrives ⟨root, requested, taken, path, permitted, rfl⟩
    simp [ExtTreeMap.mem_iff_isSome_getElem?, seen]

/-- Whatever is collected is stored. -/
theorem getElem?_of_mem_collect {index : Index} {ids : List String} {depth : Depth}
    {node : Instance} (member : node ∈ collect index ids depth)
    : ∃ id : String, index[id]? = some node := by
  obtain ⟨order, -, collected⟩ := collect_isTraversal index ids depth
  have entry : some node ∈ (collect index ids depth).map some := List.mem_map_of_mem member
  rw [collected] at entry
  obtain ⟨id, -, found⟩ := List.mem_map.mp entry
  exact ⟨id, found⟩

/-- No more is collected than is indexed, since nothing is collected twice. -/
theorem length_collect_le (index : Index) (ids : List String) (depth : Depth)
    : (collect index ids depth).length ≤ index.size := by
  obtain ⟨order, traversal, collected⟩ := collect_isTraversal index ids depth
  have indexed (id : String) (listed : id ∈ order) : id ∈ index := by
    have entry : index[id]? ∈ (collect index ids depth).map some :=
      collected ▸ List.mem_map_of_mem listed
    obtain ⟨node, -, found⟩ := List.mem_map.mp entry
    exact Index.mem_of_getElem? found.symm
  calc (collect index ids depth).length
      = order.length := by simpa using congrArg List.length collected
    _ ≤ index.size := index.length_le_size_of_nodup traversal.unique indexed

theorem unknown_eq_filter (index : Index) (ids : List String)
    : unknown index ids = ids.filter (· ∉ index) := by
  refine List.filter_congr fun id _ => ?_
  simp [← ExtTreeMap.contains_iff_mem]

end Retrieval

-----------------------------------------------------------------------------------------
-- Retrievals from a repository
-----------------------------------------------------------------------------------------

namespace Repository

/-- Reporting unknown identifiers always succeeds; failing on them fails exactly when there are
any, and succeeds with the same answer otherwise. By cases on what is unknown.
-/
theorem retrieve_eq (repository : Repository) (ids : List String) (depth : Depth)
    : ∃ retrieved,
        repository.retrieve ids depth .report = .ok retrieved
        ∧ retrieved.chunk.instances = Retrieval.collect repository.nodes ids depth
        ∧ retrieved.unknown = ids.filter (· ∉ repository.nodes)
        ∧ repository.retrieve ids depth .failFast
            = if retrieved.unknown = [] then .ok retrieved
              else .error (.unknownNodes retrieved.unknown) := by
  refine ⟨_, rfl, rfl, Retrieval.unknown_eq_filter repository.nodes ids, ?_⟩
  unfold retrieve
  cases Retrieval.unknown repository.nodes ids <;> rfl

/-- A retrieval returns once, and only, the stored instances of what the requested identifiers have
a path to with at most `limit` containment edges, where the largest number is no limit: the
requested ones first, in order of first request, and every other one behind an owner that lists it.
Requests for what is not indexed are reported as they came, or fail the retrieval.
-/
theorem retrieve_is_traversal_within_limit (repository : Repository) (ids : List String)
    (limit : Nat)
    : ∃ retrieved order,
        repository.retrieve ids (.ofNat limit) .report = .ok retrieved
        ∧ Retrieval.IsTraversal repository.nodes ids
            (fun taken => limit = Depth.unboundedNumber ∨ taken ≤ limit) order
        ∧ retrieved.chunk.instances.map some = order.map (fun id => repository.nodes[id]?)
        ∧ retrieved.unknown = ids.filter (· ∉ repository.nodes)
        ∧ repository.retrieve ids (.ofNat limit) .failFast
            = if retrieved.unknown = [] then .ok retrieved
              else .error (.unknownNodes retrieved.unknown) := by
  obtain ⟨retrieved, reported, instances, unknown, failing⟩ :=
    repository.retrieve_eq ids (.ofNat limit)
  obtain ⟨order, traversal, collected⟩ :=
    Retrieval.collect_isTraversal repository.nodes ids (.ofNat limit)
  have permitted : (Depth.ofNat limit).Permits
      = fun taken => limit = Depth.unboundedNumber ∨ taken ≤ limit :=
    funext fun taken => propext (Depth.permits_ofNat_iff limit taken)
  rw [← instances] at collected
  exact ⟨retrieved, order, reported, permitted ▸ traversal, collected, unknown, failing⟩

end Repository

end ModelRepository
