import ModelRepository.Proofs.Index.Lookup
import ModelRepository.Retrieval

/-! The walk of a retrieval over an index of any shape.
A node may be visited again with fewer steps than before, so the labels of the visited nodes only
settle at the end, while the order of the collected nodes is fixed by their first visits. The two
are followed apart: `Retrieval.Labels` carries what is reached and with how many steps,
`Retrieval.Emission` what is collected and in which order.
-/

namespace ModelRepository

open Std

-----------------------------------------------------------------------------------------
-- Limits
-----------------------------------------------------------------------------------------

namespace Depth

variable {depth : Depth} {taken used more next : Nat}

/-- Whether the limit permits a path with `taken` containment edges. -/
def Permits (depth : Depth) (taken : Nat) : Prop :=
  match depth with
  | atMost steps => taken ≤ steps
  | unbounded => True

/-- The steps that a path with `taken` containment edges uses up; none without a limit. -/
def charge (depth : Depth) (taken : Nat) : Nat :=
  match depth with
  | atMost _ => taken
  | unbounded => 0

theorem permits_zero (depth : Depth) : depth.Permits 0 := by
  cases depth <;> simp [Permits]

@[simp]
theorem charge_zero (depth : Depth) : depth.charge 0 = 0 := by
  cases depth <;> rfl

/-- A number permits what does not exceed it, and the largest one permits everything. -/
theorem permits_ofNat_iff (limit taken : Nat)
    : (ofNat limit).Permits taken ↔ limit = unboundedNumber ∨ taken ≤ limit := by
  unfold ofNat
  split <;> simp_all [Permits]

/-- Following one more containment edge charges for it, as long as the limit permits it. -/
theorem afterChild?_charge_eq_some_iff (depth : Depth) (taken next : Nat)
    : depth.afterChild? (depth.charge taken) = some next
      ↔ depth.Permits (taken + 1) ∧ next = depth.charge (taken + 1) := by
  cases depth with
  | atMost steps =>
      change (if taken < steps then some (taken + 1) else none) = some next
        ↔ taken + 1 ≤ steps ∧ next = taken + 1
      rw [Option.ite_none_right_eq_some, Option.some.injEq]
      omega
  | unbounded =>
      simp only [afterChild?, charge, Permits, true_and, Option.some.injEq]
      exact eq_comm

/-- With fewer steps used, an edge can still be followed, to no more steps than before. -/
theorem afterChild?_mono (fewer : used ≤ more) (followed : depth.afterChild? more = some next)
    : ∃ earlier ≤ next, depth.afterChild? used = some earlier := by
  cases depth with
  | atMost steps =>
      simp only [afterChild?, Option.ite_none_right_eq_some, Option.some.injEq] at followed ⊢
      exact ⟨used + 1, by omega, by omega, rfl⟩
  | unbounded =>
      cases followed
      exact ⟨used, fewer, rfl⟩

end Depth

namespace Retrieval

-----------------------------------------------------------------------------------------
-- Paths
-----------------------------------------------------------------------------------------

/-- A path through indexed nodes along their lists, with the number of its containment edges;
annotation edges are not counted.
-/
inductive Path (index : Index) (root : String) : String → Nat → Prop
  | start (indexed : root ∈ index)
    : Path index root root 0
  | annotated {owner holder id taken} (before : Path index root owner taken)
    (found : index[owner]? = some holder) (lists : id ∈ holder.annotations) (indexed : id ∈ index)
    : Path index root id taken
  | child {owner holder id taken} (before : Path index root owner taken)
    (found : index[owner]? = some holder) (lists : id ∈ holder.childIds) (indexed : id ∈ index)
    : Path index root id (taken + 1)

theorem mem_successors_iff (depth : Depth) (node : Instance) (used next : Nat) (id : String)
    : (id, next) ∈ successors depth node used
      ↔ (id ∈ node.annotations ∧ next = used)
        ∨ (id ∈ node.childIds ∧ depth.afterChild? used = some next) := by
  have labelled (ids : List String) (steps : Nat)
      : (id, next) ∈ ids.map (·, steps) ↔ id ∈ ids ∧ next = steps := by
    simp only [List.mem_map, Prod.mk.injEq]
    exact ⟨fun ⟨_, lists, same, steps⟩ => ⟨same ▸ lists, steps.symm⟩,
      fun ⟨lists, steps⟩ => ⟨id, lists, rfl, steps.symm⟩⟩
  unfold successors
  rw [List.mem_append, labelled]
  refine or_congr_right ?_
  cases depth.afterChild? used with
  | none => simp
  | some steps =>
      rw [labelled, Option.some.injEq]
      exact and_congr_right fun _ => eq_comm

/-- What waits behind a node is listed by it. -/
theorem mem_ownedIds_of_mem_successors {index : Index} {depth : Depth} {node : Instance}
    {owner id : String} {used next : Nat} (found : index[owner]? = some node)
    (waits : (id, next) ∈ successors depth node used)
    : id ∈ index.ownedIds owner := by
  refine (index.mem_ownedIds_iff owner id).mpr ⟨node, found, ?_⟩
  rcases (mem_successors_iff depth node used next id).mp waits with ⟨lists, -⟩ | ⟨lists, -⟩
  · exact List.mem_append_right _ lists
  · exact List.mem_append_left _ lists

/-- With fewer steps used, everything that waited behind a node still does, with no more steps. -/
theorem successors_mono {depth : Depth} {node : Instance} {id : String} {used more next : Nat}
    (fewer : used ≤ more) (waits : (id, next) ∈ successors depth node more)
    : ∃ earlier ≤ next, (id, earlier) ∈ successors depth node used := by
  simp only [mem_successors_iff] at waits ⊢
  rcases waits with ⟨lists, rfl⟩ | ⟨lists, followed⟩
  · exact ⟨used, fewer, Or.inl ⟨lists, rfl⟩⟩
  · obtain ⟨earlier, bound, again⟩ := Depth.afterChild?_mono fewer followed
    exact ⟨earlier, bound, Or.inr ⟨lists, again⟩⟩

/-- Some requested identifier has a path to `id` that the limit permits and that uses up `used`
steps.
-/
def Arrives (index : Index) (ids : List String) (depth : Depth) (id : String) (used : Nat) : Prop :=
  ∃ root ∈ ids, ∃ taken,
    Path index root id taken ∧ depth.Permits taken ∧ used = depth.charge taken

section

variable {index : Index} {ids : List String} {depth : Depth} {visits : Visits}
  {order : List String} {waiting : List (String × Nat)} {id : String} {used : Nat}
  {node : Instance}

theorem Arrives.start (requested : id ∈ ids) (indexed : id ∈ index)
    : Arrives index ids depth id 0 :=
  ⟨id, requested, 0, .start indexed, depth.permits_zero, depth.charge_zero.symm⟩

/-- An arrival goes on to what waits behind it, along an edge of either kind. -/
theorem Arrives.successor {owner : String} {next : Nat}
    (arrival : Arrives index ids depth owner used) (found : index[owner]? = some node)
    (waits : (id, next) ∈ successors depth node used) (indexed : id ∈ index)
    : Arrives index ids depth id next := by
  obtain ⟨root, requested, taken, path, permitted, rfl⟩ := arrival
  rcases (mem_successors_iff _ _ _ _ _).mp waits with ⟨lists, rfl⟩ | ⟨lists, followed⟩
  · exact ⟨root, requested, taken, .annotated path found lists indexed, permitted, rfl⟩
  · obtain ⟨further, rfl⟩ := (depth.afterChild?_charge_eq_some_iff taken next).mp followed
    exact ⟨root, requested, taken + 1, .child path found lists indexed, further, rfl⟩

-----------------------------------------------------------------------------------------
-- Labels
-----------------------------------------------------------------------------------------

/-- `id` has been visited with at most `steps` steps or waits to be. -/
def Covered (visits : Visits) (waiting : List (String × Nat)) (id : String) (steps : Nat) : Prop :=
  (∃ used ≤ steps, visits[id]? = some used) ∨ ∃ used ≤ steps, (id, used) ∈ waiting

theorem Covered.mono {steps more : Nat} (covered : Covered visits waiting id steps)
    (fewer : steps ≤ more)
    : Covered visits waiting id more :=
  covered.imp (fun ⟨used, bound, seen⟩ => ⟨used, Nat.le_trans bound fewer, seen⟩)
    (fun ⟨used, bound, waits⟩ => ⟨used, Nat.le_trans bound fewer, waits⟩)

/-- The labels of a walk: each belongs to an arrival, and whatever is requested or waits behind a
visited node is covered with the steps that lead there.
-/
structure Labels (index : Index) (ids : List String) (depth : Depth) (visits : Visits)
    (waiting : List (String × Nat)) : Prop where
  visited
    : ∀ (id : String) (used : Nat),
        visits[id]? = some used → Arrives index ids depth id used
  pending
    : ∀ (id : String) (used : Nat),
        (id, used) ∈ waiting → id ∈ index → Arrives index ids depth id used
  requested : ∀ id ∈ ids, id ∈ index → Covered visits waiting id 0
  frontier
    : ∀ (owner : String) (used : Nat) (holder : Instance),
        visits[owner]? = some used
        → index[owner]? = some holder
        → ∀ id next,
            (id, next) ∈ successors depth holder used
            → id ∈ index
            → Covered visits waiting id next

/-- A walk starts with the requested identifiers waiting and nothing visited. -/
theorem Labels.initial (index : Index) (ids : List String) (depth : Depth)
    : Labels index ids depth ∅ (ids.map (·, 0)) := by
  refine ⟨by simp, ?_, ?_, by simp⟩
  · intro id used waits indexed
    simp only [List.mem_map, Prod.mk.injEq] at waits
    obtain ⟨_, requested, rfl, rfl⟩ := waits
    exact .start requested indexed
  · intro id requested indexed
    exact Or.inr ⟨0, Nat.le_refl 0, List.mem_map_of_mem requested⟩

/-- Passing over an entry keeps what is covered, when it names nothing indexed or comes too late. -/
theorem Covered.skip {other : String} {steps : Nat}
    (covered : Covered visits ((id, used) :: waiting) other steps)
    (late : other = id → ∃ earlier ≤ used, visits[id]? = some earlier)
    : Covered visits waiting other steps := by
  rcases covered with seen | ⟨later, bound, waits⟩
  · exact Or.inl seen
  · rcases List.mem_cons.mp waits with same | waits
    · cases same
      obtain ⟨earlier, sooner, seen⟩ := late rfl
      exact Or.inl ⟨earlier, Nat.le_trans sooner bound, seen⟩
    · exact Or.inr ⟨later, bound, waits⟩

theorem Labels.skip (labels : Labels index ids depth visits ((id, used) :: waiting))
    (late : id ∈ index → ∃ earlier ≤ used, visits[id]? = some earlier)
    : Labels index ids depth visits waiting where
  visited := labels.visited
  pending other later waits := labels.pending other later (List.mem_cons_of_mem _ waits)
  requested other request indexed :=
    (labels.requested other request indexed).skip fun same => late (same ▸ indexed)
  frontier owner steps holder seen found other next waits indexed :=
    (labels.frontier owner steps holder seen found other next waits indexed).skip
      fun same => late (same ▸ indexed)

/-- A visit with fewer steps than any before keeps what is covered: the entry that it takes off
has become a label.
-/
theorem Covered.visit {other : String} {steps : Nat} {more : List (String × Nat)}
    (covered : Covered visits ((id, used) :: waiting) other steps)
    (fewer : ∀ earlier, visits[id]? = some earlier → used ≤ earlier)
    : Covered (visits.insert id used) (waiting ++ more) other steps := by
  by_cases same : id = other
  · subst same
    have bound : used ≤ steps ∨ ∃ later ≤ steps, (id, later) ∈ waiting := by
      rcases covered with ⟨earlier, bound, seen⟩ | ⟨later, bound, waits⟩
      · exact Or.inl (Nat.le_trans (fewer earlier seen) bound)
      · rcases List.mem_cons.mp waits with same | waits
        · cases same
          exact Or.inl bound
        · exact Or.inr ⟨later, bound, waits⟩
    rcases bound with bound | ⟨later, bound, waits⟩
    · exact Or.inl ⟨used, bound, by simp⟩
    · exact Or.inr ⟨later, bound, List.mem_append_left _ waits⟩
  · rcases covered with ⟨earlier, bound, seen⟩ | ⟨later, bound, waits⟩
    · refine Or.inl ⟨earlier, bound, ?_⟩
      rw [ExtTreeMap.getElem?_insert, if_neg (by simpa using same)]
      exact seen
    · rcases List.mem_cons.mp waits with again | waits
      · exact (same (Prod.mk.inj again).1.symm).elim
      · exact Or.inr ⟨later, bound, List.mem_append_left _ waits⟩

/-- Visiting a node keeps the labels, since all that it lists joins what waits. Whether it is the
first visit does not count.
-/
theorem Labels.visit (labels : Labels index ids depth visits ((id, used) :: waiting))
    (found : index[id]? = some node)
    (fewer : ∀ earlier, visits[id]? = some earlier → used ≤ earlier)
    : Labels index ids depth (visits.insert id used) (waiting ++ successors depth node used) := by
  have arrival : Arrives index ids depth id used :=
    labels.pending id used List.mem_cons_self (Index.mem_of_getElem? found)
  have lookup (other : String) : (visits.insert id used)[other]?
      = if id = other then some used else visits[other]? := by
    simp [ExtTreeMap.getElem?_insert]
  refine ⟨?_, ?_, ?_, ?_⟩
  · intro other steps seen
    rw [lookup] at seen
    split at seen
    · rename_i same
      cases seen
      exact same ▸ arrival
    · exact labels.visited other steps seen
  · intro other steps waits indexed
    rcases List.mem_append.mp waits with earlier | behind
    · exact labels.pending other steps (List.mem_cons_of_mem _ earlier) indexed
    · exact arrival.successor found behind indexed
  · exact fun other request indexed => (labels.requested other request indexed).visit fewer
  · intro owner steps holder seen stored other next waits indexed
    rw [lookup] at seen
    split at seen
    · rename_i same
      subst same
      cases seen
      cases found.symm.trans stored
      exact Or.inr ⟨next, Nat.le_refl next, List.mem_append_right _ waits⟩
    · exact (labels.frontier owner steps holder seen stored other next waits indexed).visit fewer

theorem Covered.settled {steps : Nat} (covered : Covered visits [] id steps)
    : ∃ used ≤ steps, visits[id]? = some used :=
  covered.resolve_right fun ⟨_, _, waits⟩ => nomatch waits

/-- Once nothing waits, whatever waited behind a visited node has been visited, even if that would
have been with more steps.
-/
theorem Labels.visited_of_successor (labels : Labels index ids depth visits [])
    {owner : String} {steps next : Nat} (seen : visits[owner]? = some steps) (bound : steps ≤ used)
    (found : index[owner]? = some node) (waits : (id, next) ∈ successors depth node used)
    (indexed : id ∈ index)
    : ∃ fewer ≤ next, visits[id]? = some fewer := by
  obtain ⟨earlier, sooner, behind⟩ := successors_mono bound waits
  have covered := labels.frontier owner steps node seen found id earlier behind indexed
  exact (covered.mono sooner).settled

/-- Once nothing waits, every arrival has been visited with as few steps. Witness: induction on
the path; the owner before has been visited, and then what it lists has been as well.
-/
theorem Labels.visited_of_arrives (labels : Labels index ids depth visits [])
    (arrival : Arrives index ids depth id used)
    : ∃ steps ≤ used, visits[id]? = some steps := by
  obtain ⟨root, requested, taken, path, permitted, rfl⟩ := arrival
  induction path with
  | start indexed =>
      obtain ⟨steps, bound, seen⟩ := (labels.requested root requested indexed).settled
      exact ⟨steps, Nat.le_trans bound (Nat.zero_le _), seen⟩
  | @annotated owner holder id taken _ found lists indexed ih =>
      obtain ⟨steps, bound, seen⟩ := ih permitted
      have waits : (id, depth.charge taken) ∈ successors depth holder (depth.charge taken) :=
        (mem_successors_iff _ _ _ _ _).mpr (Or.inl ⟨lists, rfl⟩)
      exact labels.visited_of_successor seen bound found waits indexed
  | @child owner holder id taken _ found lists indexed ih =>
      have shorter : depth.Permits taken := by
        cases depth with
        | atMost steps => exact Nat.le_of_succ_le permitted
        | unbounded => trivial
      obtain ⟨steps, bound, seen⟩ := ih shorter
      have waits : (id, depth.charge (taken + 1)) ∈ successors depth holder (depth.charge taken) :=
        (mem_successors_iff _ _ _ _ _).mpr
          (Or.inr ⟨lists, (depth.afterChild?_charge_eq_some_iff taken _).mpr ⟨permitted, rfl⟩⟩)
      exact labels.visited_of_successor seen bound found waits indexed

end

end Retrieval

end ModelRepository
