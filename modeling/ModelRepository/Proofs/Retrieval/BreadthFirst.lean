import ModelRepository.Proofs.Retrieval.Collection

/-! The order in which a retrieval collects nodes, as long as its limit is ample.
A limit is ample if it permits as many containment edges as there are nodes. Then the lists of a
node are followed in full on its first visit, and a later visit with fewer steps puts nothing in the
queue that has not been there before. So a node is collected when it is mentioned first, whatever
the limit is: `Retrieval.IsBreadthFirst` says this of an order, and no two orders satisfy it.
-/

namespace ModelRepository

open Std

-----------------------------------------------------------------------------------------
-- First occurrences
-----------------------------------------------------------------------------------------

section FirstOccurrences

variable {α : Type} [BEq α] [LawfulBEq α] {items others more : List α}

/-- What follows a list loses what the list holds, so only its first occurrences count. -/
theorem eraseDups_append_congr (same : items.eraseDups = others.eraseDups) (more : List α)
    : (items ++ more).eraseDups = (others ++ more).eraseDups := by
  have member (item : α) : items.elem item = others.elem item := by
    rw [Bool.eq_iff_iff, List.elem_iff, List.elem_iff, ← List.mem_eraseDups, same,
      List.mem_eraseDups]
  rw [List.eraseDups_append, List.eraseDups_append, same, List.removeAll, List.removeAll]
  simp only [member]

theorem eraseDups_append_of_subset (held : more ⊆ items)
    : (items ++ more).eraseDups = items.eraseDups := by
  have nothing : more.removeAll items = [] := by
    rw [List.removeAll, List.filter_eq_nil_iff]
    exact fun item member => by simpa using held member
  rw [List.eraseDups_append, nothing, List.eraseDups_nil, List.append_nil]

theorem eraseDups_of_nodup (unique : items.Nodup) : items.eraseDups = items := by
  induction items with
  | nil => rfl
  | cons head tail ih =>
      obtain ⟨fresh, tailUnique⟩ := List.nodup_cons.mp unique
      have kept : tail.filter (fun item => !item == head) = tail := by
        refine List.filter_eq_self.mpr fun item member => ?_
        simpa using fun same : item = head => fresh (same ▸ member)
      rw [List.eraseDups_cons, kept, ih tailUnique]

end FirstOccurrences

-----------------------------------------------------------------------------------------
-- Ample limits
-----------------------------------------------------------------------------------------

namespace Depth

variable {depth : Depth} {used next count : Nat}

/-- A limit that permits more edges than have been followed permits one more. -/
theorem exists_afterChild?_eq_some (ample : depth.Permits count) (fewer : used < count)
    : ∃ next, depth.afterChild? used = some next := by
  cases depth with
  | atMost steps => exact ⟨used + 1, if_pos (Nat.lt_of_lt_of_le fewer ample)⟩
  | unbounded => exact ⟨used, rfl⟩

theorem le_of_afterChild?_eq_some (followed : depth.afterChild? used = some next)
    : next ≤ used + 1 := by
  cases depth with
  | atMost steps =>
      simp only [afterChild?, Option.ite_none_right_eq_some, Option.some.injEq] at followed
      exact Nat.le_of_eq followed.2.symm
  | unbounded =>
      cases followed
      exact Nat.le_succ used

end Depth

namespace Retrieval

-----------------------------------------------------------------------------------------
-- Breadth-first orders
-----------------------------------------------------------------------------------------

/-- What a stored node lists, in the order in which a walk takes it up: annotations before children.
-/
def neighbours (index : Index) (owner : String) : List String :=
  match index[owner]? with
  | some node => node.annotations ++ node.childIds
  | none => []

/-- The indexed identifiers that are requested, and then those that the given owners list one after
another.
-/
def mentioned (index : Index) (ids owners : List String) : List String :=
  (ids ++ owners.flatMap (neighbours index)).filter (· ∈ index)

/-- `order` lists what is mentioned by the requests and by itself, in order of first mention, and
nothing is listed before it is mentioned.
-/
structure IsBreadthFirst (index : Index) (ids order : List String) : Prop where
  unique : order.Nodup
  mentions : (mentioned index ids order).eraseDups = order
  introduced
    : ∀ before id after, order = before ++ id :: after → id ∈ mentioned index ids before

section

variable {index : Index} {ids : List String} {depth : Depth} {visits : Visits}
  {order others before after : List String} {waiting : List (String × Nat)} {id : String}
  {used : Nat} {node : Instance}

theorem neighbours_eq (found : index[id]? = some node)
    : neighbours index id = node.annotations ++ node.childIds := by
  simp only [neighbours, found]

theorem mentioned_append (index : Index) (ids before after : List String)
    : mentioned index ids (before ++ after)
      = mentioned index ids before
        ++ (after.flatMap (neighbours index)).filter (· ∈ index) := by
  simp only [mentioned, List.flatMap_append, List.filter_append, List.append_assoc]

/-- What is introduced is mentioned, once it is indexed. -/
theorem Introduced.mem_mentioned {owners : List String}
    (introduced : Introduced index ids owners id) (indexed : id ∈ index)
    : id ∈ mentioned index ids owners := by
  refine List.mem_filter.mpr ⟨?_, decide_eq_true indexed⟩
  rcases introduced with requested | ⟨owner, member, lists⟩
  · exact List.mem_append_left _ requested
  · obtain ⟨holder, found, listed⟩ := (index.mem_ownedIds_iff owner id).mp lists
    refine List.mem_append_right _ (List.mem_flatMap.mpr ⟨owner, member, ?_⟩)
    rw [neighbours_eq found]
    exact List.mem_append.mpr (List.mem_append.mp listed).symm

/-- What the front of an order mentions comes first in it. -/
theorem IsBreadthFirst.mentioned_prefix (breadth : IsBreadthFirst index ids order)
    (split : order = before ++ after)
    : (mentioned index ids before).eraseDups <+: order := by
  have mentions := breadth.mentions
  rw [split, mentioned_append, List.eraseDups_append, ← split] at mentions
  exact ⟨_, mentions⟩

/-- Those in front of an identifier settle that it comes next: what they mention begins with them
and with it, since nothing that comes later may be mentioned before it.
-/
theorem IsBreadthFirst.next_prefix (breadth : IsBreadthFirst index ids order)
    (split : order = before ++ id :: after)
    : before ++ [id] <+: (mentioned index ids before).eraseDups := by
  have listed : before ++ [id] <+: order := ⟨after, by simp [split]⟩
  rcases List.prefix_or_prefix_of_prefix listed (breadth.mentioned_prefix split) with
    whole | short
  · exact whole
  rcases List.prefix_concat_iff.mp short with same | shorter
  · exact same ▸ List.prefix_refl _
  · have repeated : id ∈ before :=
      shorter.subset (List.mem_eraseDups.mpr (breadth.introduced before id after split))
    have unique := breadth.unique
    rw [split, List.nodup_append] at unique
    exact (unique.2.2 id repeated id List.mem_cons_self rfl).elim

/-- Requests have one breadth-first order only, by induction on what is left of one order behind a
common front.
-/
theorem IsBreadthFirst.eq_of_append (before : List String) {after rest : List String}
    (breadth : IsBreadthFirst index ids (before ++ after))
    (breadthToo : IsBreadthFirst index ids (before ++ rest))
    : after = rest := by
  induction after generalizing before rest with
  | nil =>
      cases rest with
      | nil => rfl
      | cons id rest =>
          have longer := (breadthToo.next_prefix rfl).trans (breadth.mentioned_prefix rfl)
          have bound := longer.length_le
          simp only [List.length_append, List.length_singleton, List.length_nil] at bound
          omega
  | cons id after ih =>
      have common := (breadth.next_prefix rfl).trans (breadthToo.mentioned_prefix rfl)
      obtain ⟨tail, rfl⟩ := (List.prefix_append_right_inj before).mp common
      rw [List.append_cons] at breadth
      rw [← List.append_assoc] at breadthToo
      rw [ih _ breadth breadthToo, List.singleton_append]

-----------------------------------------------------------------------------------------
-- What is mentioned along a walk
-----------------------------------------------------------------------------------------

/-- What has been collected, followed by what waits, is what has been mentioned so far. -/
def KeepsUp (index : Index) (ids order : List String) (waiting : List (String × Nat)) : Prop :=
  (order ++ (waiting.map Prod.fst).filter (· ∈ index)).eraseDups
    = (mentioned index ids order).eraseDups

theorem KeepsUp.initial (index : Index) (ids : List String)
    : KeepsUp index ids [] (ids.map (·, 0)) := by
  simp [KeepsUp, mentioned, Function.comp_def]

/-- Passing over an entry loses nothing, when it names nothing indexed or what is collected. -/
theorem KeepsUp.skip (keeps : KeepsUp index ids order ((id, used) :: waiting))
    (late : id ∈ index → id ∈ order)
    : KeepsUp index ids order waiting := by
  refine Eq.trans ?_ keeps
  by_cases indexed : id ∈ index
  · rw [List.map_cons, List.filter_cons_of_pos (by simpa using indexed), List.append_cons]
    refine (eraseDups_append_congr (eraseDups_append_of_subset ?_) _).symm
    simpa using late indexed
  · rw [List.map_cons, List.filter_cons_of_neg (by simpa using indexed)]

/-- What waits behind a node names its neighbours, if its children may be followed. -/
theorem map_fst_successors {next : Nat} (found : index[id]? = some node)
    (followed : depth.afterChild? used = some next)
    : (successors depth node used).map Prod.fst = neighbours index id := by
  simp [successors, followed, neighbours_eq found, Function.comp_def]

/-- A first visit that follows all lists of the node mentions what joins the queue. -/
theorem KeepsUp.visit {next : Nat} (keeps : KeepsUp index ids order ((id, used) :: waiting))
    (found : index[id]? = some node) (followed : depth.afterChild? used = some next)
    : KeepsUp index ids (order ++ [id]) (waiting ++ successors depth node used) := by
  have indexed : id ∈ index := Index.mem_of_getElem? found
  have joined := eraseDups_append_congr keeps ((neighbours index id).filter (· ∈ index))
  rw [KeepsUp, mentioned_append, List.flatMap_singleton, ← joined, List.map_append,
    map_fst_successors found followed, List.map_cons,
    List.filter_cons_of_pos (by simpa using indexed)]
  simp

/-- A later visit puts only in the queue what has been mentioned before. -/
theorem KeepsUp.revisit (keeps : KeepsUp index ids order ((id, used) :: waiting))
    (found : index[id]? = some node) (collected : id ∈ order)
    : KeepsUp index ids order (waiting ++ successors depth node used) := by
  have passed : KeepsUp index ids order waiting := keeps.skip fun _ => collected
  rw [KeepsUp, List.map_append, List.filter_append, ← List.append_assoc]
  refine (eraseDups_append_of_subset fun other behind => ?_).trans passed
  obtain ⟨named, indexed⟩ := List.mem_filter.mp behind
  obtain ⟨⟨other, steps⟩, waits, rfl⟩ := List.mem_map.mp named
  have introduced : Introduced index ids order other :=
    Or.inr ⟨id, collected, mem_ownedIds_of_mem_successors found waits⟩
  rw [← List.mem_eraseDups, passed, List.mem_eraseDups]
  exact introduced.mem_mentioned (of_decide_eq_true indexed)

-----------------------------------------------------------------------------------------
-- Steps
-----------------------------------------------------------------------------------------

/-- No label exceeds `count`, neither that of a visited nor that of a waiting identifier. -/
structure Frugal (visits : Visits) (waiting : List (String × Nat)) (count : Nat) : Prop where
  visited : ∀ (id : String) (used : Nat), visits[id]? = some used → used ≤ count
  pending : ∀ (id : String) (used : Nat), (id, used) ∈ waiting → used ≤ count

theorem Frugal.initial (ids : List String) : Frugal ∅ (ids.map (·, 0)) 0 := by
  refine ⟨by simp, fun id used waits => ?_⟩
  simp only [List.mem_map, Prod.mk.injEq] at waits
  obtain ⟨_, _, -, rfl⟩ := waits
  exact Nat.le_refl 0

theorem Frugal.skip {count : Nat} (frugal : Frugal visits ((id, used) :: waiting) count)
    : Frugal visits waiting count where
  visited := frugal.visited
  pending other later waits := frugal.pending other later (List.mem_cons_of_mem _ waits)

/-- A visit goes one step on at most. -/
theorem Frugal.visit {count more : Nat} (frugal : Frugal visits ((id, used) :: waiting) count)
    (grown : count ≤ more) (fewer : used < more)
    : Frugal (visits.insert id used) (waiting ++ successors depth node used) more := by
  refine ⟨fun other steps seen => ?_, fun other steps waits => ?_⟩
  · rw [ExtTreeMap.getElem?_insert] at seen
    split at seen
    · cases seen
      exact Nat.le_of_lt fewer
    · exact Nat.le_trans (frugal.visited other steps seen) grown
  · rcases List.mem_append.mp waits with earlier | behind
    · exact Nat.le_trans (frugal.pending other steps (List.mem_cons_of_mem _ earlier)) grown
    · rcases (mem_successors_iff depth node used steps other).mp behind with
        ⟨-, rfl⟩ | ⟨-, followed⟩
      · exact Nat.le_of_lt fewer
      · exact Nat.le_trans (Depth.le_of_afterChild?_eq_some followed) fewer

-----------------------------------------------------------------------------------------
-- The walk
-----------------------------------------------------------------------------------------

/-- The order of a walk under an ample limit keeps up with what is mentioned, and no label exceeds
the number of collected nodes.
-/
structure Ample (index : Index) (ids : List String) (visits : Visits) (order : List String)
    (waiting : List (String × Nat)) : Prop where
  emission : Emission index ids visits order waiting
  keeps : KeepsUp index ids order waiting
  frugal : Frugal visits waiting order.length

theorem Ample.initial (index : Index) (ids : List String)
    : Ample index ids ∅ [] (ids.map (·, 0)) :=
  ⟨.initial index ids, .initial index ids, .initial ids⟩

/-- On a first visit there is a node left that has not been collected, so the steps used are below
the limit and all lists of the node are followed.
-/
theorem ample_isWalkInvariant (ids : List String) (permits : depth.Permits index.size)
    : IsWalkInvariant index depth (Ample index ids) where
  skip holds late := by
    have emission := (emission_isWalkInvariant index ids depth).skip holds.emission late
    refine ⟨emission, holds.keeps.skip fun indexed => ?_, holds.frugal.skip⟩
    obtain ⟨earlier, -, seen⟩ := late indexed
    exact (emission.visited _).mpr (by simp [ExtTreeMap.mem_iff_isSome_getElem?, seen])
  visit {visits order waiting id used node} holds found unseen := by
    have emission := (emission_isWalkInvariant index ids depth).visit holds.emission found unseen
    have room := index.length_le_size_of_nodup emission.unique emission.indexed
    rw [List.length_append, List.length_singleton] at room
    have steps : used ≤ order.length := holds.frugal.pending id used List.mem_cons_self
    obtain ⟨next, followed⟩ :=
      Depth.exists_afterChild?_eq_some permits (Nat.lt_of_le_of_lt steps room)
    refine ⟨emission, holds.keeps.visit found followed, holds.frugal.visit ?_ ?_⟩
      <;> rw [List.length_append, List.length_singleton]
      <;> omega
  revisit {visits order waiting id used node earlier} holds found seen fewer := by
    have again : id ∈ visits := by simp [ExtTreeMap.mem_iff_isSome_getElem?, seen]
    have steps : earlier ≤ order.length := holds.frugal.visited id earlier seen
    exact ⟨holds.emission.revisit found again,
      holds.keeps.revisit found ((holds.emission.visited id).mpr again),
      holds.frugal.visit (Nat.le_refl _) (Nat.lt_of_lt_of_le fewer steps)⟩

/-- Once nothing waits, the order is breadth-first. -/
theorem Ample.isBreadthFirst (holds : Ample index ids visits order [])
    : IsBreadthFirst index ids order := by
  obtain ⟨emission, keeps, -⟩ := holds
  refine ⟨emission.unique, ?_, fun before id after split => ?_⟩
  · have settled : order.eraseDups = (mentioned index ids order).eraseDups := by
      simpa [KeepsUp] using keeps
    rw [← settled, eraseDups_of_nodup emission.unique]
  · exact (emission.ordered before id after split).mem_mentioned
      (emission.indexed id (by simp [split]))

/-- Under an ample limit a collection holds the stored instances of a breadth-first order. -/
theorem collect_isBreadthFirst (ids : List String) (ample : depth.Permits index.size)
    : ∃ order,
        IsBreadthFirst index ids order
        ∧ (collect index ids depth).map some = order.map fun id => index[id]? := by
  obtain ⟨visits, order, holds, collected⟩ :=
    (ample_isWalkInvariant ids ample).preserved ∅ [] (ids.map (·, 0)) [] []
      (by simpa using Ample.initial index ids) rfl
  exact ⟨order, holds.isBreadthFirst, collected⟩

/-- All ample limits collect the same, as there is one breadth-first order only. -/
theorem collect_eq_of_permits {other : Depth} (ids : List String)
    (ample : depth.Permits index.size) (ampleToo : other.Permits index.size)
    : collect index ids depth = collect index ids other := by
  obtain ⟨order, breadth, collected⟩ := collect_isBreadthFirst ids ample
  obtain ⟨others, breadthToo, collectedToo⟩ := collect_isBreadthFirst ids ampleToo
  have same : order = others :=
    IsBreadthFirst.eq_of_append [] breadth breadthToo
  refine (List.map_inj_right fun _ _ => Option.some.inj).mp ?_
  rw [collected, collectedToo, same]

end

end Retrieval

end ModelRepository
