import Mathlib
import ModelRepository.Archive
import ModelRepository.Proofs.Chunk.Equivalence
import ModelRepository.Proofs.Chunk.Languages
import ModelRepository.Proofs.Index.CanonicalForms
import ModelRepository.Proofs.Repository.Commit

/-! Storing a batch in another order.
A batch is accepted, and the content that the partitions reach then has the same checksum, whatever
the order of its instances and of their lists, as long as features under one pointer keep theirs.
-/

namespace ModelRepository

open Std

-----------------------------------------------------------------------------------------
-- Acceptance
-----------------------------------------------------------------------------------------

/-- The grammar and the limits do not depend on the order of lists. -/
theorem Instance.WellShaped.of_canonical_eq {node other : Instance} (shaped : node.WellShaped)
    (same : node.canonical = other.canonical)
    : other.WellShaped := by
  have arranged := (node.canonical_eq_iff other).mp same
  refine ⟨arranged.id ▸ shaped.id, arranged.parent ▸ shaped.parent,
    arranged.annotated ▸ shaped.annotated, ?_, ?_, ?_⟩
  · intro id owned
    have shared := perm_of_canonical_eq _ ownedIds_canonical_perm same
    exact shaped.owned id (shared.mem_iff.mpr owned)
  · intro reference listed target entry
    have shared := perm_of_canonical_eq (·.references.flatMap Reference.targets)
      targets_canonical_perm same
    have targets := shared.mem_iff.mpr (List.mem_flatMap.mpr ⟨reference, listed, entry⟩)
    obtain ⟨source, listedToo, entryToo⟩ := List.mem_flatMap.mp targets
    exact shaped.targets source listedToo target entryToo
  · intro property listed
    have properties : property ∈ node.properties :=
      (perm_of_sortOn_eq (congrArg Instance.properties same)).mem_iff.mpr listed
    exact shaped.properties property properties

namespace Batch

variable {batch other : List Instance}

/-- The order of lists does not count for acceptance, condition by condition. -/
theorem Storable.of_sameForms {index : Index} {registered : String → Prop}
    (storable : Storable index registered batch) (same : SameForms batch other)
    : Storable index registered other := by
  refine ⟨⟨?_, ?_, same.ids.nodup_iff.mp storable.unique⟩, ?_, ?_⟩
  · have lengths := same.ids.length_eq
    rw [List.length_map, List.length_map] at lengths
    exact lengths ▸ storable.size
  · intro node member
    obtain ⟨twin, submitted, form⟩ := same.symm.twin member
    exact (storable.shaped twin submitted).of_canonical_eq form
  · intro node member id owned
    obtain ⟨twin, submitted, form⟩ := same.symm.twin member
    have shared := Instance.perm_of_canonical_eq _ Instance.ownedIds_canonical_perm form
    exact (storable.resolved twin submitted id (shared.mem_iff.mpr owned)).imp_left
      same.ids.mem_iff.mp
  · intro node member rootless
    obtain ⟨twin, submitted, form⟩ := same.symm.twin member
    have arranged := (twin.canonical_eq_iff node).mp form
    exact arranged.id ▸ storable.rooted twin submitted (arranged.parent.trans rootless)

/-- `other` is `batch` in another order and with rearranged instances. -/
def Rearranges (batch other : List Instance) : Prop :=
  ∃ middle, List.Forall₂ Instance.Rearranges batch middle ∧ middle.Perm other

theorem Rearranges.sameForms (rearranged : Rearranges batch other) : SameForms batch other := by
  obtain ⟨middle, arranged, permuted⟩ := rearranged
  have forms : batch.map Instance.canonical = middle.map Instance.canonical := by
    rw [← List.forall₂_eq_eq_eq, List.forall₂_map_left_iff, List.forall₂_map_right_iff]
    exact arranged.imp fun node twin => (node.canonical_eq_iff twin).mpr
  exact .trans (.of_eq forms) (permuted.map Instance.canonical)

end Batch

-----------------------------------------------------------------------------------------
-- Chunks
-----------------------------------------------------------------------------------------

theorem mem_usedLanguages_of_sameForms {instances others : List Instance}
    (same : Batch.SameForms instances others) {language : Language}
    (used : language ∈ usedLanguages instances)
    : language ∈ usedLanguages others := by
  obtain ⟨node, member, pointer, named, release⟩ :=
    (mem_usedLanguages_iff instances language).mp used
  obtain ⟨twin, memberToo, form⟩ := same.twin member
  have shared := Instance.perm_of_canonical_eq _ Instance.pointers_canonical_perm form
  exact (mem_usedLanguages_iff others language).mpr
    ⟨twin, memberToo, pointer, shared.mem_iff.mpr named, release⟩

/-- Chunks that declare what their instances use have one canonical form if their instances have the
same canonical forms and no identifier is repeated.
-/
theorem Chunk.canonical_ofInstances_eq {instances others : List Instance}
    (formatVersion : FormatVersion) (same : Batch.SameForms instances others)
    (unique : (instances.map Instance.id).Nodup)
    : (ofInstances formatVersion instances).canonical
      = (ofInstances formatVersion others).canonical := by
  have languages := (canonical_languages_eq_iff (ofInstances formatVersion instances)
    (ofInstances formatVersion others)).mpr fun language =>
      ⟨mem_usedLanguages_of_sameForms same, mem_usedLanguages_of_sameForms same.symm⟩
  have content := (canonical_instances_eq_iff (a := ofInstances formatVersion instances) unique
    (ofInstances formatVersion others)).mpr same
  rw [canonical, canonical, Chunk.mk.injEq]
  exact ⟨rfl, languages, content⟩

-----------------------------------------------------------------------------------------
-- Stores
-----------------------------------------------------------------------------------------

namespace Repository

/-- What two indexes with the same forms hold within reach of the partitions is the same chunk. -/
theorem canonical_retrieveAll_eq {repository other : Repository}
    (same : repository.nodes.SameForms other.nodes) (keyed : repository.nodes.Keyed)
    (partitions : repository.partitions = other.partitions)
    (configuration : repository.configuration = other.configuration)
    : repository.retrieveAll.canonical = other.retrieveAll.canonical := by
  rw [retrieveAll, retrieveAll, ← partitions, ← configuration]
  exact Chunk.canonical_ofInstances_eq _
    (Retrieval.collect_sameForms same repository.partitions.toList .unbounded)
    (Retrieval.nodup_ids_collect keyed repository.partitions.toList .unbounded)

/-- A rearranged batch is accepted as the batch is, and what the partitions reach then has the same
checksum. Witness: the two merges, their sweeps and what is retrieved from these hold the same
canonical forms.
-/
theorem store_rearranged_checksum {repository after : Repository} {batch other : List Instance}
    {changes : Changes} (keyed : repository.nodes.Keyed)
    (rearranged : Batch.Rearranges batch other)
    (stored : repository.store batch = .ok (after, changes))
    : ∃ afterToo changesToo,
        repository.store other = .ok (afterToo, changesToo)
        ∧ afterToo.retrieveAll.checksum = after.retrieveAll.checksum := by
  have same := rearranged.sameForms
  have performed : repository.perform (.store batch) = .ok (after, changes) := stored
  obtain ⟨storable, effect⟩ := commits_of_perform performed
  have performedToo : ∃ written, repository.perform (.store other) = .ok written :=
    ⟨_, (repository.store_eq_ok_iff _ other _).mpr ⟨storable.of_sameForms same, rfl⟩⟩
  obtain ⟨⟨afterToo, changesToo⟩, performedToo⟩ := performedToo
  obtain ⟨-, effectToo⟩ := commits_of_perform performedToo
  have forms := (same.merge storable.unique repository.nodes).sweep effect.sweep effectToo.sweep
  have content := canonical_retrieveAll_eq forms (effect.keyed keyed)
    (effect.registry.trans effectToo.registry.symm)
    (effect.configuration.trans effectToo.configuration.symm)
  refine ⟨afterToo, changesToo, performedToo, ?_⟩
  rw [Chunk.checksum, Chunk.canonicalBytes, ← content]
  rfl

-- A shelf with two names, and a repository that holds it as a partition.

/-- A shelf with two names and two books. -/
def shelf : Instance :=
  { id := "shelf"
    classifier := .complete "lib" "1" "Shelf"
    properties :=
      [ ⟨.complete "lib" "1" "name", some "Travel"⟩,
        ⟨.complete "lib" "1" "floor", some "2"⟩,
        ⟨.complete "lib" "1" "name", some "Maps"⟩ ]
    containments := [⟨.complete "lib" "1" "books", ["atlas", "guide"]⟩] }

/-- The shelf with its lists in another order. The names keep theirs. -/
def rearrangedShelf : Instance :=
  { shelf with
    properties :=
      [ ⟨.complete "lib" "1" "floor", some "2"⟩,
        ⟨.complete "lib" "1" "name", some "Travel"⟩,
        ⟨.complete "lib" "1" "name", some "Maps"⟩ ]
    containments := [⟨.complete "lib" "1" "books", ["guide", "atlas"]⟩] }

/-- A book on that shelf. -/
def shelved (id : String) : Instance :=
  { id, classifier := .complete "lib" "1" "Book", parent := some "shelf" }

/-- The shelf before its books. -/
def filling : List Instance :=
  [shelf, shelved "atlas", shelved "guide"]

/-- The rearranged shelf between its books. -/
def refilling : List Instance :=
  [shelved "guide", rearrangedShelf, shelved "atlas"]

/-- A repository with an empty shelf. -/
def shelves : Repository :=
  .ofParts { name := "shelves" } (IdSet.ofIds ["shelf"])
    (Index.ofInstances [{ id := "shelf", classifier := .complete "lib" "1" "Shelf" }]) 0 1

theorem filling_rearranges : Batch.Rearranges filling refilling := by
  have same : shelf.Rearranges rearrangedShelf := by
    rw [← Instance.canonical_eq_iff]
    cbv
  have itself (node : Instance) : node.Rearranges node := (node.canonical_eq_iff node).mp rfl
  exact ⟨[rearrangedShelf, shelved "atlas", shelved "guide"],
    .cons same (.cons (itself _) (.cons (itself _) .nil)), by decide⟩

/-- The books are stored with their shelf, in either order. -/
theorem filling_checksum
    : shelves.nodes.Keyed
      ∧ Batch.Rearranges filling refilling
      ∧ shelves.store filling = .ok (shelves.commit shelves.partitions {} filling)
      ∧ ∃ after changes,
          shelves.store refilling = .ok (after, changes)
          ∧ after.retrieveAll.checksum
            = (shelves.commit shelves.partitions {} filling).1.retrieveAll.checksum := by
  have keyed : shelves.nodes.Keyed := Index.keyed_put (by simp [Index.Keyed]) _
  have stored : shelves.store filling = .ok (shelves.commit shelves.partitions {} filling) := rfl
  exact ⟨keyed, filling_rearranges, stored,
    store_rearranged_checksum keyed filling_rearranges stored⟩

-- Order that counts: of values under one pointer, and of instances that share an identifier.

/-- The checksum of what the partitions reach once a batch is stored; none if it is refused. -/
def checksumAfter? (repository : Repository) (batch : List Instance) : Option UInt64 :=
  (repository.store batch).toOption.map fun written => written.1.retrieveAll.checksum

/-- A partition with the given properties and children. -/
def folder (properties : List Property) (children : List String) : Instance :=
  { id := "p"
    classifier := .complete "lib" "1" "Folder"
    properties
    containments := [⟨.complete "lib" "1" "files", children⟩] }

/-- One value under one pointer. -/
def label (value : String) : Property :=
  ⟨.complete "lib" "1" "name", some value⟩

/-- A repository with an empty folder. -/
def folders : Repository :=
  .ofParts { name := "folders" } (IdSet.ofIds ["p"]) (Index.ofInstances [folder [] []]) 0 1

/-- A file of the given kind. -/
def file (kind : String) : Instance :=
  { id := "f", classifier := .complete "lib" "1" kind }

/-- The same with two files under other identifiers than their own. -/
def misfiled : Repository :=
  { folders with nodes := (folders.nodes.insert "a" (file "Text")).insert "b" (file "Map") }

/-- Two values under one pointer make another checksum the other way round, and so do two children
that are indexed under other identifiers than the one they share.
-/
theorem checksum_depends_on_order
    : (∃ checksum swapped,
          folders.checksumAfter? [folder [label "x", label "y"] []] = some checksum
          ∧ folders.checksumAfter? [folder [label "y", label "x"] []] = some swapped
          ∧ checksum ≠ swapped)
      ∧ ∃ checksum swapped,
          misfiled.checksumAfter? [folder [] ["a", "b"]] = some checksum
          ∧ misfiled.checksumAfter? [folder [] ["b", "a"]] = some swapped
          ∧ checksum ≠ swapped := by
  refine ⟨⟨9614380585270474974, 9758495704626854110, ?_, ?_, by decide⟩,
    ⟨14496962187035063512, 7103674015029352464, ?_, ?_, by decide⟩⟩ <;> cbv

end Repository

end ModelRepository
