import ModelRepository.Proofs.Repository.Difference
import ModelRepository.Proofs.Storage.Loading

/-! Writes on repositories that come back from their rows.
Whatever a write leaves behind is stored or submitted, so it still fits, and its change set leads
from the old rows to the new ones, the nodes that were swept without ever being mentioned included.
-/

namespace ModelRepository

open Std
open Binary

-----------------------------------------------------------------------------------------
-- What still fits
-----------------------------------------------------------------------------------------

theorem Binary.ListFits.filter {α : Type} {itemFits : α → Prop} {values : List α}
    (fits : ListFits itemFits values) (keep : α → Bool)
    : ListFits itemFits (values.filter keep) :=
  ⟨Nat.lt_of_le_of_lt (List.length_filter_le keep values) fits.1,
    fun value member => fits.2 value (List.mem_filter.mp member).1⟩

/-- An instance fits without some of the nodes that it owns. -/
theorem Instance.Fits.disownAll {node : Instance} (fits : node.Fits) (ids : List String)
    : (node.disownAll ids).Fits := by
  obtain ⟨id, classifier, parent, properties, ⟨length, containments⟩, references, annotations,
    annotated⟩ := fits
  refine ⟨id, classifier, parent, properties, ⟨?_, ?_⟩, references, annotations.filter _, annotated⟩
  · simpa [Instance.disownAll] using length
  · intro containment member
    obtain ⟨whole, before, rfl⟩ := List.mem_map.mp member
    exact ⟨(containments whole before).1, (containments whole before).2.filter _⟩

-----------------------------------------------------------------------------------------
-- Counters
-----------------------------------------------------------------------------------------

/-- Counting never leads back to zero. -/
theorem nextCount_ne_zero (count : UInt64) : nextCount count ≠ 0 := by
  intro zero
  have counted := toNat_nextCount count
  rw [zero] at counted
  have last : lastCount.toNat = 18446744073709551615 := by decide
  have first : (0 : UInt64).toNat = 0 := by decide
  omega

/-- An allocation never sets a counter to zero, by induction on the number of identifiers. -/
theorem ne_zero_of_allocateFrom {index : Index} {taken : List String} {number : UInt64}
    {count : Nat} {allocated : List String × UInt64} (counter : number ≠ 0)
    (done : allocateFrom index taken number count = some allocated)
    : allocated.2 ≠ 0 := by
  induction count generalizing taken number with
  | zero =>
      cases done
      exact counter
  | succ count ih =>
      rw [allocateFrom] at done
      split at done
      · cases done
      · exact ih (nextCount_ne_zero _) done

-----------------------------------------------------------------------------------------
-- Repositories
-----------------------------------------------------------------------------------------

namespace Repository

variable {before after : Repository} {changes : Changes}

theorem create_storable {configuration : Configuration} (fits : configuration.Fits)
    : (create configuration).Storable := by
  refine ⟨fits, ?_, (by decide : (1 : UInt64) ≠ 0)⟩
  intro id node found
  exact (ExtTreeMap.not_mem_empty (Index.mem_of_getElem? found)).elim

/-- A snapshot that was read from bytes describes a storable repository. -/
theorem ofSnapshot_storable {snapshot : Snapshot} (fits : snapshot.Fits)
    : (ofSnapshot snapshot).Storable := by
  obtain ⟨configuration, -, -, nodes⟩ := fits
  refine ⟨configuration, ?_, ?_⟩
  · intro id node found
    rcases Index.mem_of_getElem?_put found with earlier | member
    · exact (ExtTreeMap.not_mem_empty (Index.mem_of_getElem? earlier)).elim
    · exact nodes node member
  · simp only [ofSnapshot, ofParts]
    split
    · decide
    · assumption

/-- An accepted write of instances that fit keeps a repository storable. -/
theorem Storable.perform {request : Request} (storable : before.Storable)
    (fits : ∀ node ∈ request.batch, node.Fits)
    (done : before.perform request = .ok (after, changes))
    : after.Storable := by
  obtain ⟨accepted, effect⟩ := commits_of_perform done
  refine ⟨effect.configuration ▸ storable.configuration, ?_,
    effect.counters.2 ▸ storable.counter⟩
  intro id node found
  obtain ⟨merged, -⟩ := (effect.sweep id node).mp found
  rcases before.nodes.getElem?_merge_cases accepted.storable.unique merged with
    ⟨submitted, -⟩ | ⟨-, stored, earlier, rfl⟩
  · exact fits node submitted
  · exact (storable.nodes id stored earlier).disownAll _

theorem Storable.allocate {count : Nat} {ids : List String} (storable : before.Storable)
    (done : before.allocate count = .ok (after, ids))
    : after.Storable := by
  unfold Repository.allocate at done
  split at done
  · rename_i taken nextId counted
    cases done
    exact ⟨storable.configuration, storable.nodes, ne_zero_of_allocateFrom storable.counter counted⟩
  · cases done

theorem Storable.bump (storable : before.Storable) : before.bump.Storable :=
  ⟨storable.configuration, storable.nodes, storable.counter⟩

/-- The change set of an accepted write leads from the repository before it to the one after it. -/
theorem leads_of_perform {request : Request}
    (done : before.perform request = .ok (after, changes))
    : changes.Leads before after := by
  obtain ⟨accepted, committed⟩ := (before.perform_eq_ok_iff after request changes).mp done
  obtain ⟨-, effect⟩ := commits_of_perform done
  have registration := before.commit_registration
    (request.partitionsAfter before.partitions) (request.registration before) request.batch
  rw [committed] at registration
  refine ⟨fun id upserted => ((effect.upserted id).mp upserted).1,
    fun id deleted => ((effect.deleted id).mp deleted).2,
    fun _ unmarked undeleted => effect.getElem?_eq unmarked undeleted, ?_⟩
  intro id
  rw [effect.registry, registration.1, registration.2, request.mem_registration_added_iff before,
    request.mem_registration_removed_iff accepted]
  grind

/-- An allocation changes no content, so the empty change set leads to it. -/
theorem leads_of_allocate {count : Nat} {ids : List String}
    (done : before.allocate count = .ok (after, ids))
    : ({} : Changes).Leads before after ∧ after.name = before.name := by
  unfold Repository.allocate at done
  split at done
  · cases done
    exact ⟨⟨by simp, by simp, fun _ _ _ => rfl, by simp⟩, rfl⟩
  · cases done

end Repository

theorem Changes.Leads.bump {changes : Changes} {before after : Repository}
    (leads : changes.Leads before after)
    : changes.Leads before after.bump :=
  ⟨leads.upserted, leads.deleted, leads.unchanged, leads.partitions⟩

end ModelRepository
