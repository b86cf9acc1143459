import ModelRepository.Proofs.Repository.History
import ModelRepository.Proofs.Repository.Isolation

/-! Stores that keep to different partitions.
Each store releases moved nodes all over the index and then sweeps all of it. If two batches keep
to what different partitions reach, apart from new nodes of their own, the second one still finds
all that it mentions as it was, and both orders leave the sweep of the merge of the joined batch.
-/

namespace ModelRepository

open Std

-----------------------------------------------------------------------------------------
-- What a batch mentions
-----------------------------------------------------------------------------------------

namespace Batch

variable {batch other : List Instance} {node : Instance} {id : String}

/-- The identifiers that a batch submits or lists. -/
def mentions (batch : List Instance) : List String :=
  batch.flatMap fun node => node.id :: node.ownedIds

theorem mem_mentions_of_submitted (submitted : node ∈ batch) : node.id ∈ mentions batch :=
  List.mem_flatMap.mpr ⟨node, submitted, List.mem_cons_self⟩

theorem mem_mentions_of_listed (submitted : node ∈ batch) (lists : id ∈ node.ownedIds)
    : id ∈ mentions batch :=
  List.mem_flatMap.mpr ⟨node, submitted, List.mem_cons_of_mem _ lists⟩

theorem mem_mentions_of_mem_ids (member : id ∈ batch.map Instance.id) : id ∈ mentions batch := by
  obtain ⟨node, submitted, rfl⟩ := List.mem_map.mp member
  exact mem_mentions_of_submitted submitted

/-- Whatever `batch` mentions is within reach of the partition, or is new and not mentioned by
`other`.
-/
def KeepsTo (index : Index) (partition : String) (batch other : List Instance) : Prop :=
  ∀ id ∈ mentions batch, id ∈ index.heldBy partition ∨ (id ∉ index ∧ id ∉ mentions other)

/-- Batches that mention nothing in common can be joined without repeating an identifier. -/
theorem nodup_append (unique : (batch.map Instance.id).Nodup)
    (uniqueToo : (other.map Instance.id).Nodup)
    (separate : ∀ id ∈ mentions batch, id ∉ mentions other)
    : ((batch ++ other).map Instance.id).Nodup := by
  rw [List.map_append, List.nodup_append]
  refine ⟨unique, uniqueToo, ?_⟩
  intro id member again memberToo same
  exact separate id (mem_mentions_of_mem_ids member) (mem_mentions_of_mem_ids (same ▸ memberToo))

end Batch

-----------------------------------------------------------------------------------------
-- One merge after another
-----------------------------------------------------------------------------------------

namespace Index

variable {index swept final : Index} {roots : IdSet} {batch next : List Instance} {id : String}

/-- `next` mentions nothing that `batch` does, and finds what it mentions in the sweep of its merge
as it was in the index.
-/
structure Undisturbed (index swept : Index) (batch next : List Instance) : Prop where
  separate : ∀ id ∈ Batch.mentions batch, id ∉ Batch.mentions next
  kept : ∀ id ∈ Batch.mentions next, swept[id]? = index[id]?

namespace Undisturbed

/-- The same nodes of the second batch leave their owners, since their records are as they were. -/
theorem mem_leavers_iff (undisturbed : index.Undisturbed swept batch next) (owner id : String)
    : id ∈ swept.leavers next owner ↔ id ∈ index.leavers next owner := by
  simp only [Index.mem_leavers_iff]
  refine exists_congr fun node => and_congr_right fun submitted => and_congr_right fun same => ?_
  subst same
  have kept := undisturbed.kept node.id (Batch.mem_mentions_of_submitted submitted)
  rw [parentOf?, parentOf?, kept]

/-- Whatever the second merge indexes, it answers as the merge of the joined batch. Witness: by
whose instance it is; one of the first batch lists nothing of the second, and any other one has lost
the leavers of both.
-/
theorem getElem?_merge (undisturbed : index.Undisturbed swept batch next)
    (sweep : swept.IsSweepOf (index.merge batch) roots) (unique : (batch.map Instance.id).Nodup)
    (uniqueNext : (next.map Instance.id).Nodup) (indexed : id ∈ swept.merge next)
    : (swept.merge next)[id]? = (index.merge (batch ++ next))[id]? := by
  have joined := Batch.nodup_append unique uniqueNext undisturbed.separate
  by_cases later : id ∈ next.map Instance.id
  · obtain ⟨node, submitted, rfl⟩ := List.mem_map.mp later
    rw [swept.getElem?_merge_of_mem uniqueNext submitted,
      index.getElem?_merge_of_mem joined (List.mem_append_right batch submitted)]
  · have left : id ∈ swept := ((swept.mem_merge_iff next id).mp indexed).resolve_right later
    rw [swept.getElem?_merge_of_not_mem later, sweep.getElem?_eq (sweep.mem_iff.mp left)]
    by_cases earlier : id ∈ batch.map Instance.id
    · obtain ⟨node, submitted, rfl⟩ := List.mem_map.mp earlier
      rw [index.getElem?_merge_of_mem unique submitted,
        index.getElem?_merge_of_mem joined (List.mem_append_left next submitted), Option.map_some,
        Option.some.injEq, node.disownAll_eq_self_iff]
      intro leaver leaves lists
      obtain ⟨moved, submittedNext, rfl, -⟩ := (swept.mem_leavers_iff next node.id leaver).mp leaves
      exact undisturbed.separate moved.id (Batch.mem_mentions_of_listed submitted lists)
        (Batch.mem_mentions_of_submitted submittedNext)
    · have absent : id ∉ (batch ++ next).map Instance.id := by
        rw [List.map_append, List.mem_append]
        exact not_or.mpr ⟨earlier, later⟩
      rw [index.getElem?_merge_of_not_mem earlier, index.getElem?_merge_of_not_mem absent,
        Option.map_map, leavers_append]
      congr 1
      funext holder
      rw [Function.comp_apply, holder.disownAll_append]
      exact (holder.disownAll _).disownAll_congr (undisturbed.mem_leavers_iff id)

/-- The sweep between the two merges drops nothing that the roots reach in the merge of the joined
batch. Witness: induction on the path; a step leaves the first merge only to what the second batch
submits.
-/
theorem mem_merge_of_reaches (undisturbed : index.Undisturbed swept batch next)
    (sweep : swept.IsSweepOf (index.merge batch) roots) (unique : (batch.map Instance.id).Nodup)
    (uniqueNext : (next.map Instance.id).Nodup)
    (reached : Reaches (index.merge (batch ++ next)) roots id)
    : id ∈ swept.merge next := by
  have origin {id : String} (indexed : id ∈ index.merge (batch ++ next))
      : id ∈ index.merge batch ∨ id ∈ next.map Instance.id := by
    rw [mem_merge_iff, List.map_append, List.mem_append] at indexed
    rwa [mem_merge_iff, or_assoc]
  have survives {id : String} (reached : Reaches (index.merge batch) roots id)
      : id ∈ swept.merge next :=
    (swept.mem_merge_iff next id).mpr (Or.inl (sweep.mem_iff.mpr reached))
  induction reached with
  | root registered indexed =>
      rcases origin indexed with first | later
      · exact survives (.root registered first)
      · exact (swept.mem_merge_iff next _).mpr (Or.inr later)
  | @owned owner id _ lists indexed ih =>
      rcases origin indexed with first | later
      · rw [← ownedIds_congr (undisturbed.getElem?_merge sweep unique uniqueNext ih)] at lists
        obtain ⟨holder, found, listed⟩ := ((swept.merge next).mem_ownedIds_iff owner id).mp lists
        rcases swept.getElem?_merge_cases uniqueNext found with
          ⟨submitted, -⟩ | ⟨-, stored, before, rfl⟩
        · have mentioned := Batch.mem_mentions_of_listed submitted listed
          have old : id ∈ index := ((index.mem_merge_iff batch id).mp first).resolve_right
            fun member => undisturbed.separate id (Batch.mem_mentions_of_mem_ids member) mentioned
          obtain ⟨node, known⟩ := (index.mem_iff_exists id).mp old
          have kept := (undisturbed.kept id mentioned).trans known
          exact (swept.mem_merge_iff next id).mpr (Or.inl (mem_of_getElem? kept))
        · rw [Instance.disownAll_ownedIds] at listed
          obtain ⟨merged, above⟩ := (sweep owner stored).mp before
          exact survives (above.listed merged (List.mem_filter.mp listed).1 first)
      · exact (swept.mem_merge_iff next id).mpr (Or.inr later)

/-- Merging and sweeping one batch after the other leaves the sweep of the merge of the joined
batch.
-/
theorem isSweepOf_merge_append (undisturbed : index.Undisturbed swept batch next)
    (sweep : swept.IsSweepOf (index.merge batch) roots) (unique : (batch.map Instance.id).Nodup)
    (uniqueNext : (next.map Instance.id).Nodup)
    (sweepNext : final.IsSweepOf (swept.merge next) roots)
    : final.IsSweepOf (index.merge (batch ++ next)) roots := by
  have within {id : String} (indexed : id ∈ swept.merge next)
      : id ∈ index.merge (batch ++ next) := by
    obtain ⟨node, found⟩ := ((swept.merge next).mem_iff_exists id).mp indexed
    have same := undisturbed.getElem?_merge sweep unique uniqueNext indexed
    exact mem_of_getElem? (same.symm.trans found)
  have same : (index.merge (batch ++ next)).SameBelow (swept.merge next) roots := by
    refine ⟨?_, fun _ _ indexed => within indexed, fun _ _ _ _ indexed => within indexed⟩
    intro id reached
    exact undisturbed.getElem?_merge sweep unique uniqueNext
      (undisturbed.mem_merge_of_reaches sweep unique uniqueNext reached)
  exact same.isSweepOf_iff.mp sweepNext

end Undisturbed

end Index

-----------------------------------------------------------------------------------------
-- Stores into different partitions
-----------------------------------------------------------------------------------------

namespace Repository

variable {repository after final : Repository} {home away : String}
  {batch other : List Instance} {changes finalChanges : Changes}

/-- Two partitions that reach nothing in common, and two batches that keep to one of them each. -/
structure Separates (repository : Repository) (home away : String)
    (batch other : List Instance) : Prop where
  registered : home ∈ repository.partitions
  otherRegistered : away ∈ repository.partitions
  disjoint : ∀ id ∈ repository.nodes.heldBy home, id ∉ repository.nodes.heldBy away
  keeps : Batch.KeepsTo repository.nodes home batch other
  otherKeeps : Batch.KeepsTo repository.nodes away other batch

namespace Separates

theorem symm (separates : repository.Separates home away batch other)
    : repository.Separates away home other batch :=
  ⟨separates.otherRegistered, separates.registered,
    fun id held again => separates.disjoint id again held, separates.otherKeeps, separates.keeps⟩

/-- The batches mention nothing in common: it would be new to neither, and within reach of both
partitions.
-/
theorem separate (separates : repository.Separates home away batch other)
    : ∀ id ∈ Batch.mentions batch, id ∉ Batch.mentions other := by
  intro id mentioned again
  rcases separates.keeps id mentioned with held | ⟨-, apart⟩
  · rcases separates.otherKeeps id again with heldToo | ⟨-, apart⟩
    · exact separates.disjoint id held heldToo
    · exact apart mentioned
  · exact apart again

/-- A store of the other batch leaves what the batch mentions as it was, present or absent. -/
theorem getElem?_eq (separates : repository.Separates home away batch other)
    (effect : repository.Commits repository.partitions other after changes) {id : String}
    (mentioned : id ∈ Batch.mentions batch)
    : after.nodes[id]? = repository.nodes[id]? := by
  rcases separates.keeps id mentioned with held | ⟨unknown, apart⟩
  · have among : ∀ root ∈ IdSet.ofIds [home], root ∈ repository.partitions := by
      simpa using separates.registered
    refine effect.getElem?_of_apart among ?_ ((Index.mem_heldBy_iff _ home id).mp held)
    intro node submitted reached
    rcases separates.otherKeeps node.id (Batch.mem_mentions_of_submitted submitted) with
      heldToo | ⟨new, -⟩
    · exact separates.disjoint node.id ((Index.mem_heldBy_iff _ home node.id).mpr reached) heldToo
    · exact new reached.indexed
  · have absent : id ∉ after.nodes := by
      intro indexed
      have merged := (effect.sweep.mem_iff.mp indexed).indexed
      rcases (repository.nodes.mem_merge_iff other id).mp merged with old | submitted
      · exact unknown old
      · exact apart (Batch.mem_mentions_of_mem_ids submitted)
    rw [ExtTreeMap.getElem?_eq_none absent, ExtTreeMap.getElem?_eq_none unknown]

/-- A batch is as acceptable after a store of the other one as it is before. -/
theorem storable_iff (separates : repository.Separates home away batch other)
    (effect : repository.Commits repository.partitions other after changes)
    : Batch.Storable after.nodes (· ∈ after.partitions) batch
      ↔ Batch.Storable repository.nodes (· ∈ repository.partitions) batch := by
  have indexed {node : Instance} {id : String} (submitted : node ∈ batch)
      (lists : id ∈ node.ownedIds)
      : id ∈ after.nodes ↔ id ∈ repository.nodes := by
    have kept := separates.getElem?_eq effect (Batch.mem_mentions_of_listed submitted lists)
    rw [Index.mem_iff_exists, Index.mem_iff_exists, kept]
  rw [effect.registry]
  constructor
  · intro storable
    exact ⟨storable.toWellFormed, fun node submitted id lists =>
      (storable.resolved node submitted id lists).imp_right (indexed submitted lists).mp,
      storable.rooted⟩
  · intro storable
    exact ⟨storable.toWellFormed, fun node submitted id lists =>
      (storable.resolved node submitted id lists).imp_right (indexed submitted lists).mpr,
      storable.rooted⟩

/-- Two stores leave the sweep of the merge of the joined batch. -/
theorem isSweepOf_merge_append (separates : repository.Separates home away batch other)
    (effect : repository.Commits repository.partitions batch after changes)
    (next : after.Commits after.partitions other final finalChanges)
    (unique : (batch.map Instance.id).Nodup) (otherUnique : (other.map Instance.id).Nodup)
    : final.nodes.IsSweepOf (repository.nodes.merge (batch ++ other)) repository.partitions := by
  have undisturbed : repository.nodes.Undisturbed after.nodes batch other :=
    ⟨separates.separate, fun _ mentioned => separates.symm.getElem?_eq effect mentioned⟩
  have sweep := next.sweep
  rw [effect.registry] at sweep
  exact undisturbed.isSweepOf_merge_append effect.sweep unique otherUnique sweep

end Separates

/-- A store takes effect if the batch is storable, and otherwise leaves the repository alone. -/
theorem after_store_cases (repository : Repository) (batch : List Instance)
    : (Batch.Storable repository.nodes (· ∈ repository.partitions) batch
        ∧ ∃ changes,
            repository.Commits repository.partitions batch
              (repository.after (.write (.store batch))) changes)
      ∨ (¬ Batch.Storable repository.nodes (· ∈ repository.partitions) batch
        ∧ repository.after (.write (.store batch)) = repository) := by
  cases done : repository.perform (.store batch) with
  | ok written =>
      obtain ⟨storable, effect⟩ := commits_of_perform done
      refine Or.inl ⟨storable, written.2, ?_⟩
      simp only [after, done]
      exact effect
  | error refusal =>
      refine Or.inr ⟨fun storable => ?_, by simp only [after, done]⟩
      have accepted := (repository.store_eq_ok_iff _ batch _).mpr ⟨storable, rfl⟩
      cases accepted.symm.trans done

namespace Separates

theorem accepted_iff (separates : repository.Separates home away batch other)
    : (∃ written, repository.store batch = .ok written)
      ↔ ∃ written, (repository.after (.write (.store other))).store batch = .ok written := by
  rw [exists_store_eq_ok_iff, exists_store_eq_ok_iff]
  rcases repository.after_store_cases other with ⟨-, changes, effect⟩ | ⟨-, same⟩
  · exact (separates.storable_iff effect).symm
  · rw [same]

/-- A store that is refused changes nothing after the other one either. -/
theorem after_of_refused (separates : repository.Separates home away batch other)
    (refused : ¬ Batch.Storable repository.nodes (· ∈ repository.partitions) batch)
    : (repository.after (.write (.store other))).after (.write (.store batch))
      = repository.after (.write (.store other)) := by
  rcases (repository.after (.write (.store other))).after_store_cases batch with
    ⟨storable, -⟩ | ⟨-, same⟩
  · have accepted := separates.accepted_iff.mpr ((exists_store_eq_ok_iff _ batch).mpr storable)
    exact (refused ((exists_store_eq_ok_iff repository batch).mp accepted)).elim
  · exact same

/-- The order of two accepted stores does not count, since that of the joined batch does not. -/
theorem eq_of_commits (separates : repository.Separates home away batch other)
    {afterOther finalOther : Repository} {otherChanges finalOtherChanges : Changes}
    (effect : repository.Commits repository.partitions batch after changes)
    (next : after.Commits after.partitions other final finalChanges)
    (otherEffect : repository.Commits repository.partitions other afterOther otherChanges)
    (otherNext : afterOther.Commits afterOther.partitions batch finalOther finalOtherChanges)
    (unique : (batch.map Instance.id).Nodup) (otherUnique : (other.map Instance.id).Nodup)
    : final = finalOther := by
  have joined := Batch.nodup_append unique otherUnique separates.separate
  have sweep := separates.isSweepOf_merge_append effect next unique otherUnique
  rw [repository.nodes.merge_perm List.perm_append_comm joined] at sweep
  have nodes : final.nodes = finalOther.nodes :=
    sweep.unique (separates.symm.isSweepOf_merge_append otherEffect otherNext otherUnique unique)
  have registry := otherNext.registry.trans otherEffect.registry
  have configuration := otherNext.configuration.trans otherEffect.configuration
  have version := otherNext.counters.1.trans otherEffect.counters.1
  have nextId := otherNext.counters.2.trans otherEffect.counters.2
  exact next.after_eq nodes (effect.registry.trans registry.symm)
    (effect.configuration.trans configuration.symm) (effect.counters.1.trans version.symm)
    (effect.counters.2.trans nextId.symm)

end Separates

/-- Of two batches that keep to partitions which reach nothing in common, each is accepted after the
other exactly if it is accepted before, and both orders leave the same repository, whatever else
lists the moved nodes.
-/
theorem separate_stores_commute (repository : Repository) (home away : String)
    (batch other : List Instance) (separates : repository.Separates home away batch other)
    : ((∃ written, repository.store batch = .ok written)
        ↔ ∃ written, (repository.after (.write (.store other))).store batch = .ok written)
      ∧ ((∃ written, repository.store other = .ok written)
        ↔ ∃ written, (repository.after (.write (.store batch))).store other = .ok written)
      ∧ repository.run [.write (.store batch), .write (.store other)]
        = repository.run [.write (.store other), .write (.store batch)] := by
  refine ⟨separates.accepted_iff, separates.symm.accepted_iff, ?_⟩
  change (repository.after (.write (.store batch))).after (.write (.store other))
    = (repository.after (.write (.store other))).after (.write (.store batch))
  rcases repository.after_store_cases batch with ⟨storable, changes, effect⟩ | ⟨refused, same⟩
  · rcases repository.after_store_cases other with
      ⟨otherStorable, otherChanges, otherEffect⟩ | ⟨otherRefused, otherSame⟩
    · have again := (separates.storable_iff otherEffect).mpr storable
      have otherAgain := (separates.symm.storable_iff effect).mpr otherStorable
      obtain ⟨-, finalChanges, next⟩ := (after_store_cases _ other).resolve_right
        fun refusal => refusal.1 otherAgain
      obtain ⟨-, finalOtherChanges, otherNext⟩ := (after_store_cases _ batch).resolve_right
        fun refusal => refusal.1 again
      exact separates.eq_of_commits effect next otherEffect otherNext storable.unique
        otherStorable.unique
    · rw [separates.symm.after_of_refused otherRefused, otherSame]
  · rw [separates.after_of_refused refused, same]

-- A green between two partitions, which loses a node to each of them.

/-- Three partitions, two of which share their node with the third one, its recorded parent. -/
def parish : Repository :=
  .ofParts { name := "parish" } (IdSet.ofIds ["green", "north", "south"])
    (Index.ofInstances [
      .withChildren "green" none ["oak", "pond"],
      .withChildren "north" none ["oak"],
      .withChildren "south" none ["pond"],
      .withChildren "oak" (some "green") [],
      .withChildren "pond" (some "green") []])
    0 1

/-- Moves the one shared node, with a new node below it. -/
def northern : List Instance :=
  [.withChildren "oak" (some "north") ["nest"], .withChildren "nest" (some "oak") []]

/-- Moves the other shared node, with a new node below it and a stray one. -/
def southern : List Instance :=
  [ .withChildren "pond" (some "south") ["frog"],
    .withChildren "frog" (some "pond") [],
    .withChildren "stray" (some "pond") [] ]

theorem parish_separates : parish.Separates "north" "south" northern southern := by
  have north : "oak" ∈ parish.nodes.heldBy "north" :=
    Index.mem_heldBy_of_listed (by decide +kernel) (by decide +kernel) (by decide +kernel)
  have south : "pond" ∈ parish.nodes.heldBy "south" :=
    Index.mem_heldBy_of_listed (by decide +kernel) (by decide +kernel) (by decide +kernel)
  have apart : ∀ id ∈ ["north", "oak"], id ∉ ["south", "pond"] := by decide
  have fresh : ∀ id ∈ Batch.mentions northern,
      id = "oak" ∨ (id ∉ parish.nodes ∧ id ∉ Batch.mentions southern) := by decide +kernel
  have otherFresh : ∀ id ∈ Batch.mentions southern,
      id = "pond" ∨ (id ∉ parish.nodes ∧ id ∉ Batch.mentions northern) := by decide +kernel
  refine ⟨by decide +kernel, by decide +kernel, ?_, ?_, ?_⟩
  · intro id held heldToo
    exact apart id
      (Index.mem_of_mem_heldBy ["north", "oak"] (by decide) (by decide +kernel) held)
      (Index.mem_of_mem_heldBy ["south", "pond"] (by decide) (by decide +kernel) heldToo)
  · intro id mentioned
    rcases fresh id mentioned with rfl | unknown
    · exact Or.inl north
    · exact Or.inr unknown
  · intro id mentioned
    rcases otherFresh id mentioned with rfl | unknown
    · exact Or.inl south
    · exact Or.inr unknown

/-- The green loses both nodes, in either order. -/
theorem parish_stores_commute
    : parish.Separates "north" "south" northern southern
      ∧ (∃ written, parish.store northern = .ok written)
      ∧ (∃ written, (parish.after (.write (.store southern))).store northern = .ok written)
      ∧ parish.run [.write (.store northern), .write (.store southern)]
        = parish.run [.write (.store southern), .write (.store northern)] := by
  obtain ⟨accepted, -, same⟩ :=
    separate_stores_commute parish "north" "south" northern southern parish_separates
  have stored : ∃ written, parish.store northern = .ok written := ⟨_, rfl⟩
  exact ⟨parish_separates, stored, accepted.mp stored, same⟩

end Repository

end ModelRepository
