import Mathlib.Logic.Relation
import ModelRepository.Audit
import ModelRepository.Proofs.Index.Lookup

/-! The audit follows recorded parents with a visited set, and it comes back to where it started
exactly when the chain of recorded parents does.
-/

namespace ModelRepository

open Std Relation

/-- The index records `parent` as the parent of `id`. -/
def Index.RecordsParent (index : Index) (id parent : String) : Prop :=
  index.parentOf? id = some parent

/-- Only what is indexed records a parent and starts a chain. -/
theorem Index.mem_of_chain {index : Index} {id other : String}
    (chain : TransGen index.RecordsParent id other)
    : id ∈ index := by
  obtain ⟨parent, recorded, -⟩ := TransGen.head'_iff.mp chain
  obtain ⟨node, found, -⟩ := (index.parentOf?_eq_some_iff id parent).mp recorded
  exact mem_of_getElem? found

namespace Audit

variable {index : Index} {start ancestor next : String} {visited : IdSet}

/-- Why a walk goes no further. -/
def ChainStops (index : Index) (start : String) (visited : IdSet) (ancestor : String) : Prop :=
  ancestor = start ∨ ancestor ∈ visited ∨ index.parentOf? ancestor = none

/-- One call of the walk that goes on is the next call. -/
theorem returnsTo_next (away : ancestor ≠ start) (fresh : ancestor ∉ visited)
    (recorded : index.RecordsParent ancestor next)
    : returnsTo index start visited ancestor
      = returnsTo index start (visited.insert ancestor) next := by
  obtain ⟨node, found, parented⟩ := (index.parentOf?_eq_some_iff ancestor next).mp recorded
  rw [returnsTo, if_neg away, dif_neg (mt ExtTreeSet.contains_iff_mem.mp fresh)]
  split <;> simp_all

/-- A call that goes no further tells whether the walk is back. -/
theorem returnsTo_of_stops (stops : ChainStops index start visited ancestor)
    : returnsTo index start visited ancestor = true ↔ ancestor = start := by
  rw [returnsTo]
  split
  · rename_i back
    simp [back]
  · rename_i away
    simp only [away, iff_false, Bool.not_eq_true]
    split
    · rfl
    · rename_i unseen
      have fresh : ancestor ∉ visited := mt ExtTreeSet.contains_iff_mem.mpr unseen
      have rootless := (stops.resolve_left away).resolve_left fresh
      rcases (index.parentOf?_eq_none_iff ancestor).mp rootless with missing | ⟨root, found, _⟩
      · split <;> simp_all
      · split <;> simp_all

/-- What holds where a walk stops, and where it goes on if it holds at the next call, holds at every
call, by induction along the walk.
-/
theorem walk_induction (index : Index) (start : String) {motive : IdSet → String → Prop}
    (stop
      : ∀ visited ancestor, ChainStops index start visited ancestor → motive visited ancestor)
    (next
      : ∀ visited ancestor next,
          ancestor ≠ start
          → ancestor ∉ visited
          → index.RecordsParent ancestor next
          → motive (visited.insert ancestor) next
          → motive visited ancestor)
    (visited : IdSet) (ancestor : String)
    : motive visited ancestor := by
  induction visited, ancestor using returnsTo.induct index start with
  | case1 visited => exact stop visited start (Or.inl rfl)
  | case2 visited ancestor _ seen =>
      exact stop visited ancestor (Or.inr (Or.inl (ExtTreeSet.contains_iff_mem.mp seen)))
  | case3 visited ancestor _ _ missing =>
      exact stop visited ancestor (Or.inr (Or.inr (by simp [Index.parentOf?, missing])))
  | case4 visited ancestor _ _ node stored rootless =>
      have ends := (Index.parentOf?_of_getElem? stored).trans rootless
      exact stop visited ancestor (Or.inr (Or.inr ends))
  | case5 visited ancestor away unseen node stored parent recorded ih =>
      have step := (Index.parentOf?_of_getElem? stored).trans recorded
      exact next visited ancestor parent away (mt ExtTreeSet.contains_iff_mem.mpr unseen) step ih

/-- A walk that comes back has followed recorded parents, by induction along the walk. -/
theorem chain_of_returnsTo (index : Index) (start : String) (visited : IdSet)
    (ancestor : String) (returns : returnsTo index start visited ancestor = true)
    : ReflTransGen index.RecordsParent ancestor start := by
  induction visited, ancestor using walk_induction index start with
  | stop visited ancestor stops =>
      cases (returnsTo_of_stops stops).mp returns
      exact .refl
  | next visited ancestor parent away fresh step ih =>
      rw [returnsTo_next away fresh step] at returns
      exact .head step (ih returns)

/-- The identifiers behind a walk are not its start, and each of them records a parent that lies
behind the walk as well or is where the walk stands.
-/
def Behind (index : Index) (start : String) (visited : IdSet) (ancestor : String) : Prop :=
  ∀ id ∈ visited,
    id ≠ start
    ∧ ∀ parent, index.RecordsParent id parent → parent ∈ visited ∨ parent = ancestor

/-- A walk that stands behind itself never leaves what is behind it, by induction on the chain. -/
theorem Behind.mem_of_chain (behind : Behind index start visited ancestor)
    (seen : ancestor ∈ visited) {id : String}
    (chain : ReflTransGen index.RecordsParent ancestor id)
    : id ∈ visited := by
  induction chain with
  | refl => exact seen
  | tail _ step ih =>
      rcases (behind _ ih).2 _ step with inside | rfl
      · exact inside
      · exact seen

/-- Taking one more step keeps what is behind the walk. -/
theorem Behind.step (behind : Behind index start visited ancestor) (away : ancestor ≠ start)
    {next : String} (recorded : index.RecordsParent ancestor next)
    : Behind index start (visited.insert ancestor) next := by
  intro id member
  rw [ExtTreeSet.mem_insert, Std.compare_eq_iff_eq] at member
  rcases member with rfl | earlier
  · refine ⟨away, fun parent again => Or.inr ?_⟩
    exact Option.some.inj (again.symm.trans recorded)
  · obtain ⟨different, parents⟩ := behind id earlier
    refine ⟨different, fun parent again => Or.inl ?_⟩
    rcases parents parent again with inside | rfl <;> simp [*]

/-- A chain of recorded parents that comes back is found. Witness: induction along the walk;
when it meets itself, the chain from there on stays behind it and never meets the start.
-/
theorem returnsTo_of_chain (index : Index) (start : String) (visited : IdSet)
    (ancestor : String) (behind : Behind index start visited ancestor)
    (chain : ReflTransGen index.RecordsParent ancestor start)
    : returnsTo index start visited ancestor = true := by
  induction visited, ancestor using walk_induction index start with
  | stop visited ancestor stops =>
      refine (returnsTo_of_stops stops).mpr ?_
      rcases stops with back | seen | rootless
      · exact back
      · exact ((behind start (behind.mem_of_chain seen chain)).1 rfl).elim
      · rcases chain.cases_head with same | ⟨parent, step, -⟩
        · exact same
        · cases rootless.symm.trans step
  | next visited ancestor parent away fresh step ih =>
      rw [returnsTo_next away fresh step]
      rcases chain.cases_head with same | ⟨other, first, rest⟩
      · exact (away same).elim
      · cases first.symm.trans step
        exact ih (behind.step away step) rest

/-- The audit calls an instance cyclic exactly when its chain of recorded parents leads back to
it.
-/
theorem isCyclic_iff {id : String} {node : Instance} (found : index[id]? = some node)
    : isCyclic index node id = true ↔ TransGen index.RecordsParent id id := by
  have recorded : index.parentOf? id = node.parent := Index.parentOf?_of_getElem? found
  unfold isCyclic
  split
  · rename_i rootless
    simp only [Bool.false_eq_true, false_iff]
    intro cycle
    obtain ⟨next, step, -⟩ := TransGen.head'_iff.mp cycle
    simp [Index.RecordsParent, recorded, rootless] at step
  · rename_i parent parented
    have step : index.RecordsParent id parent := recorded.trans parented
    constructor
    · intro returns
      exact .head' step (chain_of_returnsTo index id ∅ parent returns)
    · intro cycle
      obtain ⟨other, first, rest⟩ := TransGen.head'_iff.mp cycle
      have same : other = parent := Option.some.inj (first.symm.trans step)
      subst same
      exact returnsTo_of_chain index id ∅ other (by simp [Behind]) rest

end Audit

end ModelRepository
