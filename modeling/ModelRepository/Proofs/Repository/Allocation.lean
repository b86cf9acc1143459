import Mathlib
import ModelRepository.Proofs.Repository.History

/-! The identifiers that a repository allocates along a history.
A search for a free number starts at the counter, and the counter goes on behind the number that was
found. Nothing else moves it, so every number that was ever given out lies below it, whatever became
of its identifier. Only the last value ends this, since a counter does not leave it.
-/

namespace ModelRepository

open Std

-----------------------------------------------------------------------------------------
-- Numbers
-----------------------------------------------------------------------------------------

theorem toNat_lastCount : lastCount.toNat = 18446744073709551615 := by
  decide

theorem le_lastCount (count : UInt64) : count ≤ lastCount := by
  have limit := count.toNat_lt
  have last := toNat_lastCount
  rw [UInt64.le_iff_toNat_le]
  omega

theorem lt_nextCount {count : UInt64} (passable : count ≠ lastCount) : count < nextCount count := by
  have limit := count.toNat_lt
  have last := toNat_lastCount
  have counted := toNat_nextCount count
  have differs : count.toNat ≠ lastCount.toNat := fun same => passable (UInt64.toNat_inj.mp same)
  rw [UInt64.lt_iff_toNat_lt]
  omega

theorem le_nextCount (count : UInt64) : count ≤ nextCount count := by
  have limit := count.toNat_lt
  have last := toNat_lastCount
  have counted := toNat_nextCount count
  rw [UInt64.le_iff_toNat_le]
  omega

theorem nextCount_le {count later : UInt64} (before : count < later) : nextCount count ≤ later := by
  have counted := toNat_nextCount count
  rw [UInt64.lt_iff_toNat_lt] at before
  rw [UInt64.le_iff_toNat_le]
  omega

theorem eq_lastCount {count : UInt64} (reached : lastCount ≤ count) : count = lastCount :=
  UInt64.le_antisymm (le_lastCount count) reached

/-- Numerals behind one and the same mark tell numbers apart. -/
theorem numeral_inj {mark : String} {number other : UInt64}
    (same : mark ++ toString number.toNat = mark ++ toString other.toNat)
    : number = other :=
  UInt64.toNat_inj.mp (Nat.repr_injective ((String.append_right_inj mark).mp same))

theorem allocatedId_inj {number other : UInt64}
    : allocatedId number = allocatedId other ↔ number = other :=
  ⟨numeral_inj, congrArg allocatedId⟩

-----------------------------------------------------------------------------------------
-- The search
-----------------------------------------------------------------------------------------

section Search

variable {index : Index} {number free other next : UInt64} {taken ids : List String} {count : Nat}

theorem freeNumber?_eq_some (found : freeNumber? index number = some free)
    : number ≤ free ∧ allocatedId free ∉ index := by
  fun_induction freeNumber? index number with
  | case1 => cases found
  | case2 number _ passable ih =>
      obtain ⟨later, unindexed⟩ := ih found
      exact ⟨UInt64.le_trans (le_nextCount number) later, unindexed⟩
  | case3 number unindexed =>
      cases found
      exact ⟨UInt64.le_refl _, fun member => unindexed (ExtTreeMap.contains_iff_mem.mpr member)⟩

/-- The search ends at the first free number, so not behind any of them. -/
theorem exists_freeNumber? (within : number ≤ other) (unindexed : allocatedId other ∉ index)
    : ∃ free ≤ other, freeNumber? index number = some free := by
  fun_induction freeNumber? index number with
  | case1 indexed =>
      have same : other = lastCount := eq_lastCount within
      subst same
      exact (unindexed (ExtTreeMap.contains_iff_mem.mp indexed)).elim
  | case2 number indexed _ ih =>
      refine ih (nextCount_le (UInt64.lt_of_le_of_ne within fun same => ?_))
      subst same
      exact unindexed (ExtTreeMap.contains_iff_mem.mp indexed)
  | case3 number _ => exact ⟨number, within, rfl⟩

/-- Free numbers from `number` on that move the counter to `next`. The counter passes them all and
they ascend, unless it ends up at its last value.
-/
structure Draws (index : Index) (number next : UInt64) (numbers : List UInt64) : Prop where
  free : ∀ drawn ∈ numbers, number ≤ drawn ∧ allocatedId drawn ∉ index
  passed : next ≠ lastCount → ∀ drawn ∈ numbers, drawn < next
  ascending : next ≠ lastCount → numbers.Pairwise (· < ·)
  forward : number ≤ next

theorem Draws.cons {numbers : List UInt64} (found : freeNumber? index number = some free)
    (draws : Draws index (nextCount free) next numbers)
    : Draws index number next (free :: numbers) := by
  obtain ⟨later, unindexed⟩ := freeNumber?_eq_some found
  have onward : number ≤ nextCount free := UInt64.le_trans later (le_nextCount free)
  have passable (unfinished : next ≠ lastCount) : free < nextCount free := by
    refine lt_nextCount fun last => unfinished (eq_lastCount ?_)
    simpa [last, nextCount] using draws.forward
  refine ⟨?_, ?_, ?_, UInt64.le_trans onward draws.forward⟩
  · intro drawn member
    rcases List.mem_cons.mp member with rfl | rest
    · exact ⟨later, unindexed⟩
    · obtain ⟨behind, unindexed⟩ := draws.free drawn rest
      exact ⟨UInt64.le_trans onward behind, unindexed⟩
  · intro unfinished drawn member
    rcases List.mem_cons.mp member with rfl | rest
    · exact UInt64.lt_of_lt_of_le (passable unfinished) draws.forward
    · exact draws.passed unfinished drawn rest
  · intro unfinished
    refine List.pairwise_cons.mpr ⟨fun drawn rest => ?_, draws.ascending unfinished⟩
    exact UInt64.lt_of_lt_of_le (passable unfinished) (draws.free drawn rest).1

/-- An allocation draws numbers and adds their identifiers to those that are taken already, by
induction on how many it draws.
-/
theorem draws_of_allocateFrom (done : allocateFrom index taken number count = some (ids, next))
    : ∃ numbers,
        numbers.length = count
        ∧ ids = taken.reverse ++ numbers.map allocatedId
        ∧ Draws index number next numbers := by
  induction count generalizing taken number with
  | zero =>
      cases done
      exact ⟨[], rfl, by simp, by simp, by simp, fun _ => .nil, UInt64.le_refl _⟩
  | succ count ih =>
      rw [allocateFrom] at done
      split at done
      · cases done
      · rename_i free found
        obtain ⟨numbers, length, same, draws⟩ := ih done
        exact ⟨free :: numbers, by simp [length], by simp [same], draws.cons found⟩

end Search

/-- The counter has passed the numbers of all issued identifiers, or it has come to its last
value.
-/
def Passed (counter : UInt64) (issued : List String) : Prop :=
  counter ≠ lastCount → ∀ id ∈ issued, ∃ number < counter, id = allocatedId number

namespace Draws

variable {index : Index} {number next : UInt64} {numbers : List UInt64} {issued : List String}

/-- The counter is not at its last value before numbers are drawn if it is not so afterwards. -/
theorem start_ne (draws : Draws index number next numbers) (unfinished : next ≠ lastCount)
    : number ≠ lastCount :=
  fun last => unfinished (eq_lastCount (last ▸ draws.forward))

theorem passed_append (draws : Draws index number next numbers) (passed : Passed number issued)
    : Passed next (issued ++ numbers.map allocatedId) := by
  intro unfinished id member
  rcases List.mem_append.mp member with earlier | drawn
  · obtain ⟨old, below, same⟩ := passed (draws.start_ne unfinished) id earlier
    exact ⟨old, UInt64.lt_of_lt_of_le below draws.forward, same⟩
  · obtain ⟨new, listed, rfl⟩ := List.mem_map.mp drawn
    exact ⟨new, draws.passed unfinished new listed, rfl⟩

/-- What is drawn behind a counter that has passed everything issued was not issued before. -/
theorem nodup_append (draws : Draws index number next numbers) (unfinished : next ≠ lastCount)
    (passed : Passed number issued) (distinct : issued.Nodup)
    : (issued ++ numbers.map allocatedId).Nodup := by
  have apart : (numbers.map allocatedId).Nodup :=
    List.pairwise_map.mpr ((draws.ascending unfinished).imp fun before same =>
      UInt64.ne_of_lt before (allocatedId_inj.mp same))
  refine List.nodup_append.mpr ⟨distinct, apart, ?_⟩
  rintro id earlier _ drawn rfl
  obtain ⟨old, below, same⟩ := passed (draws.start_ne unfinished) id earlier
  obtain ⟨new, listed, again⟩ := List.mem_map.mp drawn
  have met : new = old := allocatedId_inj.mp (again.trans same)
  exact UInt64.lt_irrefl new (UInt64.lt_of_lt_of_le (met ▸ below) (draws.free new listed).1)

end Draws

-----------------------------------------------------------------------------------------
-- Histories
-----------------------------------------------------------------------------------------

/-- Where a counter stands once `count` free numbers have been found from `number` on. A search that
finds none runs through all numbers, so it leaves the counter at its last value.
-/
def counterBehind (index : Index) (number : UInt64) : Nat → UInt64
  | 0 => number
  | count + 1 =>
      match freeNumber? index number with
      | none => lastCount
      | some free => counterBehind index (nextCount free) count

/-- Where the counter stays below its last value the allocation comes to its end, by induction on
how many numbers it draws.
-/
theorem allocateFrom_eq_some {index : Index} {number : UInt64} {count : Nat}
    (low : counterBehind index number count < lastCount) (taken : List String)
    : ∃ ids,
        allocateFrom index taken number count
          = some (ids, counterBehind index number count) := by
  induction count generalizing number taken with
  | zero => exact ⟨taken.reverse, rfl⟩
  | succ count ih =>
      rw [counterBehind] at low ⊢
      rw [allocateFrom]
      cases found : freeNumber? index number with
      | none =>
          simp only [found] at low
          exact (UInt64.lt_irrefl _ low).elim
      | some free =>
          simp only [found] at low ⊢
          exact ih low _

namespace Repository

variable {repository counted : Repository} {calls earlier later : List Call} {call : Call}
  {count : Nat} {ids issued : List String}

theorem draws_of_allocate (done : repository.allocate count = .ok (counted, ids))
    : ∃ numbers,
        numbers.length = count
        ∧ ids = numbers.map allocatedId
        ∧ Draws repository.nodes repository.nextId counted.nextId numbers
        ∧ counted = { repository with nextId := counted.nextId } := by
  unfold allocate at done
  split at done
  · rename_i drawn
    cases done
    obtain ⟨numbers, length, same, draws⟩ := draws_of_allocateFrom drawn
    exact ⟨numbers, length, same, draws, rfl⟩
  · cases done

/-- Where the counter stands behind a call. -/
def counterAfter (repository : Repository) : Call → UInt64
  | .write _ => repository.nextId
  | .allocate count => counterBehind repository.nodes repository.nextId count

/-- The counter stays below its last value all along the history. -/
def CountsOn (repository : Repository) : List Call → Prop
  | [] => repository.nextId < lastCount
  | call :: rest =>
      repository.counterAfter call < lastCount ∧ CountsOn (repository.after call) rest

instance CountsOn.decidable (repository : Repository)
    : (calls : List Call) → Decidable (repository.CountsOn calls)
  | [] => inferInstanceAs (Decidable (repository.nextId < lastCount))
  | call :: rest =>
      have := CountsOn.decidable (repository.after call) rest
      inferInstanceAs (Decidable (_ ∧ _))

/-- The identifiers that a call returns. -/
def idsOf (repository : Repository) : Call → List String
  | .write _ => []
  | .allocate count =>
      match repository.allocate count with
      | .ok (_, ids) => ids
      | .error _ => []

/-- The identifiers that the calls of a history return, call by call. -/
def allocated (repository : Repository) : List Call → List String
  | [] => []
  | call :: rest => repository.idsOf call ++ (repository.after call).allocated rest

theorem CountsOn.after_append (low : repository.CountsOn (earlier ++ later))
    : (repository.run earlier).CountsOn later := by
  induction earlier generalizing repository with
  | nil => exact low
  | cons call rest ih => exact ih low.2

theorem CountsOn.run_lt (low : repository.CountsOn calls)
    : (repository.run calls).nextId < lastCount := by
  have whole : repository.CountsOn (calls ++ []) := by rwa [List.append_nil]
  exact whole.after_append

/-- An allocation behind which the counter is low is accepted. -/
theorem exists_allocate (low : repository.counterAfter (.allocate count) < lastCount)
    : ∃ counted ids, repository.allocate count = .ok (counted, ids) := by
  obtain ⟨ids, drawn⟩ := allocateFrom_eq_some low []
  exact ⟨_, ids, by rw [allocate, drawn]⟩

/-- A call draws the numbers of the identifiers that it returns. A write draws none. -/
theorem draws_of_call (low : repository.counterAfter call < lastCount)
    : ∃ numbers,
        repository.idsOf call = numbers.map allocatedId
        ∧ Draws repository.nodes repository.nextId (repository.after call).nextId numbers := by
  cases call with
  | write request =>
      refine ⟨[], rfl, by simp, by simp, fun _ => .nil, ?_⟩
      cases done : repository.perform request with
      | error refusal => simp only [after, done, UInt64.le_refl]
      | ok written =>
          obtain ⟨-, effect⟩ := commits_of_perform done
          simp only [after, done, effect.counters.2, UInt64.le_refl]
  | allocate count =>
      obtain ⟨counted, ids, done⟩ := exists_allocate low
      obtain ⟨numbers, -, same, draws, -⟩ := draws_of_allocate done
      exact ⟨numbers, by simp only [idsOf, done, same], by simpa only [after, done] using draws⟩

/-- The counter is low where such a history starts, since no call sets it back. By induction on the
calls.
-/
theorem CountsOn.nextId_lt (low : repository.CountsOn calls) : repository.nextId < lastCount := by
  induction calls generalizing repository with
  | nil => exact low
  | cons call rest ih =>
      obtain ⟨_, -, draws⟩ := draws_of_call low.1
      exact UInt64.lt_of_le_of_lt draws.forward (ih low.2)

/-- Along a history that keeps the counter low it passes whatever is returned, and nothing is
returned that was issued before. By induction on the calls.
-/
theorem passed_run (low : repository.CountsOn calls) (passed : Passed repository.nextId issued)
    (distinct : issued.Nodup)
    : Passed (repository.run calls).nextId (issued ++ repository.allocated calls)
      ∧ (issued ++ repository.allocated calls).Nodup := by
  induction calls generalizing repository issued with
  | nil => simpa [allocated, run] using ⟨passed, distinct⟩
  | cons call rest ih =>
      obtain ⟨numbers, same, draws⟩ := draws_of_call low.1
      have unfinished := UInt64.ne_of_lt low.2.nextId_lt
      rw [allocated, same, ← List.append_assoc]
      exact ih low.2 (draws.passed_append passed) (draws.nodup_append unfinished passed distinct)

/-- Along any history of calls on a repository that started empty, accepted or rejected, which keeps
the counter below its last value, no identifier is returned twice, whether it was stored or not, and
the counter is behind the numbers of all that were returned. Every allocation on the way returns as
many identifiers as it was asked for, none of which is indexed at that moment.
-/
theorem run_allocates_afresh (configuration : Configuration) (calls : List Call)
    (low : (create configuration).CountsOn calls)
    : ((create configuration).allocated calls).Nodup
      ∧ (∀ id ∈ (create configuration).allocated calls,
          ∃ number < ((create configuration).run calls).nextId, id = allocatedId number)
      ∧ ∀ earlier count later,
          calls = earlier ++ .allocate count :: later
          → ∃ counted ids,
              ((create configuration).run earlier).allocate count = .ok (counted, ids)
              ∧ ids.length = count
              ∧ ∀ id ∈ ids, id ∉ ((create configuration).run earlier).nodes := by
  have unused : Passed (create configuration).nextId [] := fun _ _ member => nomatch member
  obtain ⟨passed, distinct⟩ := passed_run low unused .nil
  refine ⟨distinct, passed (UInt64.ne_of_lt low.run_lt), ?_⟩
  rintro earlier count later rfl
  obtain ⟨counted, ids, done⟩ := exists_allocate low.after_append.1
  obtain ⟨numbers, length, rfl, draws, -⟩ := draws_of_allocate done
  refine ⟨counted, _, done, by rw [List.length_map, length], fun id member => ?_⟩
  obtain ⟨number, drawn, rfl⟩ := List.mem_map.mp member
  exact (draws.free number drawn).2

-- A repository that holds a node under an identifier which is still to come.

def plantedInstances : List Instance :=
  [ .withChildren "id-2" none [] ]

def planted : Repository :=
  .ofParts { name := "planted" } (IdSet.ofIds ["id-2"]) (Index.ofInstances plantedInstances) 0 1

/-- The node is a partition, so it outlasts the sweep of its creation. -/
theorem after_createPartitions_plantedInstances
    : (create { name := "planted" }).after (.write (.createPartitions plantedInstances))
      = planted := by
  obtain ⟨⟨written, changes⟩, created⟩
      : ∃ written,
          (create { name := "planted" }).perform (.createPartitions plantedInstances)
            = .ok written :=
    ⟨_, rfl⟩
  obtain ⟨-, effect⟩ := commits_of_perform created
  have registry : written.partitions = planted.partitions := effect.registry
  have nodes : written.nodes = planted.nodes := by
    refine effect.sweep.unique fun id node => ?_
    have merged : (create { name := "planted" }).nodes.merge plantedInstances = planted.nodes :=
      Index.empty_merge plantedInstances
    rw [← effect.registry, registry, Request.batch, merged]
    refine ⟨fun found => ⟨found, ?_⟩, And.left⟩
    have indexed := Index.mem_of_getElem? found
    have only : id = "id-2" := by
      simpa [planted, ofParts, Index.ofInstances, Index.mem_put_iff, plantedInstances,
        Instance.withChildren] using indexed
    exact .root (by simp [only, planted, ofParts]) indexed
  simp only [after, created]
  exact effect.after_eq nodes (effect.registry.symm.trans registry) rfl rfl rfl

/-- Stores the node, is refused another one, allocates identifiers and deletes the node. -/
def planting : List Call :=
  [ .write (.createPartitions plantedInstances),
    .write (.store [.withChildren "id-3" none []]),
    .allocate 2,
    .write (.deletePartitions ["id-2"]) ]

/-- The number of the stored node is passed over. That of the refused one is not. -/
theorem planting_allocates
    : (create { name := "planted" }).CountsOn planting
      ∧ (create { name := "planted" }).allocated planting = ["id-1", "id-3"]
      ∧ ((create { name := "planted" }).allocated planting).Nodup := by
  have low : (create { name := "planted" }).CountsOn planting := by
    refine ⟨by decide +kernel, ?_⟩
    rw [after_createPartitions_plantedInstances]
    decide +kernel
  have returned : (create { name := "planted" }).allocated planting = ["id-1", "id-3"] := by
    rw [planting, allocated, after_createPartitions_plantedInstances]
    decide +kernel
  exact ⟨low, returned, (run_allocates_afresh { name := "planted" } planting low).1⟩

end Repository

end ModelRepository
