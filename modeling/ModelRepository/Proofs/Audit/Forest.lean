import ModelRepository.Proofs.Audit.Cleanliness
import ModelRepository.Proofs.Index.OwnershipPaths
import ModelRepository.Proofs.Repository.Commit

/-! An audit that finds nothing.
The audit looks at slots, recorded parents, chains of parents and reachability one by one. That all
of these are in order is a property of the repository as a whole: it is a forest, in which exactly
one path of slots leads from the partitions to each node.
-/

namespace ModelRepository

open Std

namespace Repository

/-- A forest of valid identifiers whose trees grow from the partitions: every node has one path of
slots from a partition to it, and records the owner of the last slot on it as its parent, if any.
-/
structure IsForest (catalog : Catalog) (repository : Repository) : Prop where
  valid : ∀ id ∈ repository.nodes, isValidId id = true
  listed
    : ∀ (owner : String) (holder : Instance),
        repository.nodes[owner]? = some holder
        → ∀ id ∈ holder.ownedIds, id ∈ repository.nodes
  partitions
    : ∀ id ∈ repository.partitions,
        ∃ root,
          repository.nodes[id]? = some root
          ∧ root.parent = none
          ∧ catalog.partitionCapable? root.classifier ≠ some false
  paths
    : ∀ id ∈ repository.nodes,
        ∃! path, OwnershipPath repository.nodes repository.partitions path id
  parents
    : ∀ (id : String) (node : Instance) (path : List Slot),
        repository.nodes[id]? = some node
        → OwnershipPath repository.nodes repository.partitions path id
        → node.parent = path.head?.map Slot.owner
  hosts
    : ∀ (owner : String) (holder : Instance),
        repository.nodes[owner]? = some holder
        → ∀ id ∈ holder.annotations, ∀ node,
            repository.nodes[id]? = some node
            → node.annotated = none ∨ node.annotated = some owner

variable {catalog : Catalog} {repository : Repository}

/-- One path leads to each node of an orderly repository, as it is reached and has one owner. -/
theorem Orderly.existsUnique_path (orderly : repository.Orderly) {id : String}
    (indexed : id ∈ repository.nodes)
    : ∃! path, OwnershipPath repository.nodes repository.partitions path id := by
  have coherent := orderly.toCoherent
  obtain ⟨path, held⟩ := (orderly.reached id indexed).exists_path
  exact ⟨path, held, fun _ again => coherent.linked.path_unique coherent.slots again held⟩

/-- An orderly repository is a forest if its partitions may be partitions. -/
theorem Orderly.isForest (orderly : repository.Orderly)
    (capable
      : ∀ id ∈ repository.partitions, ∀ root,
          repository.nodes[id]? = some root
          → catalog.partitionCapable? root.classifier ≠ some false)
    : repository.IsForest catalog := by
  have coherent := orderly.toCoherent
  have linked := coherent.linked
  refine ⟨coherent.valid, ?_, ?_, fun _ => orderly.existsUnique_path, ?_, ?_⟩
  · exact fun _ _ found _ lists => linked.indexed found lists
  · intro id registered
    obtain ⟨indexed, rootless⟩ := coherent.roots id registered
    obtain ⟨root, found⟩ := (repository.nodes.mem_iff_exists id).mp indexed
    rw [Index.parentOf?_of_getElem? found] at rootless
    exact ⟨root, found, rootless, capable id registered root found⟩
  · intro id node path found held
    rw [← Index.parentOf?_of_getElem? found]
    exact linked.parentOf?_eq_of_path held
  · intro owner holder found id lists node stored
    cases annotates : node.annotated with
    | none => exact Or.inl rfl
    | some host =>
        rw [coherent.hosts owner holder found id lists node host stored annotates]
        exact Or.inr rfl

namespace IsForest

variable {owner id : String} {holder : Instance}

/-- The path to an owner goes on to whatever it lists, so this records it as its parent. -/
theorem owned (forest : repository.IsForest catalog)
    (found : repository.nodes[owner]? = some holder) (lists : id ∈ holder.ownedIds)
    : repository.nodes.parentOf? id = some owner := by
  obtain ⟨path, above, -⟩ := forest.paths owner (Index.mem_of_getElem? found)
  obtain ⟨position, held⟩ :=
    above.exists_slot ((repository.nodes.mem_ownedIds_iff owner id).mpr ⟨holder, found, lists⟩)
  obtain ⟨node, stored⟩ :=
    (repository.nodes.mem_iff_exists id).mp (forest.listed owner holder found id lists)
  rw [Index.parentOf?_of_getElem? stored]
  exact forest.parents id node _ stored held

/-- No instance of a forest lists anything twice: two slots with one identifier would be the ends
of two paths to it.
-/
theorem distinct (forest : repository.IsForest catalog) : repository.nodes.Distinct := by
  intro owner holder found
  obtain ⟨path, above, -⟩ := forest.paths owner (Index.mem_of_getElem? found)
  have owned : repository.nodes.ownedIds owner = holder.ownedIds := by
    simp [Index.ownedIds, found]
  rw [List.nodup_iff_getElem?_ne_getElem?]
  intro first second less inRange same
  obtain ⟨id, held⟩ : ∃ id, holder.ownedIds[second]? = some id :=
    ⟨_, List.getElem?_eq_getElem inRange⟩
  have indexed := forest.listed owner holder found id (List.mem_of_getElem? held)
  rw [← owned] at same held
  have ends := (forest.paths id indexed).unique (above.slot (same.trans held)) (above.slot held)
  simp only [List.cons.injEq, Slot.mk.injEq] at ends
  exact absurd ends.1.2 (Nat.ne_of_lt less)

/-- A forest is orderly, rule by rule. -/
theorem orderly (forest : repository.IsForest catalog) : repository.Orderly := by
  refine ⟨⟨forest.valid, ?_, ?_, forest.distinct, ?_⟩, ?_⟩
  · exact fun _ _ found _ lists => forest.owned found lists
  · intro owner holder found id lists node host stored annotates
    have hosted := forest.hosts owner holder found id lists node stored
    rw [annotates] at hosted
    simpa using hosted
  · intro id registered
    obtain ⟨root, found, rootless, -⟩ := forest.partitions id registered
    exact ⟨Index.mem_of_getElem? found, (Index.parentOf?_of_getElem? found).trans rootless⟩
  · intro id indexed
    obtain ⟨path, held, -⟩ := forest.paths id indexed
    exact held.reaches indexed

end IsForest

/-- An audit finds nothing at all exactly in the forests. Witness: what it may still find in an
orderly repository is a partition that cannot be one, and a forest has none of these.
-/
theorem audit_eq_nil_iff_isForest (catalog : Catalog) (repository : Repository)
    : repository.audit catalog = [] ↔ repository.IsForest catalog := by
  constructor
  · intro silent
    have nothing {issue : Issue} (finding : Audit.Finding catalog repository issue) : False := by
      have reported := finding.mem_audit
      simp [silent] at reported
    have clean : repository.IsClean catalog := by
      intro issue reported
      exact (nothing ((Audit.mem_audit_iff catalog repository issue).mp reported)).elim
    refine clean.orderly.isForest ?_
    exact fun id registered root found incapable =>
      nothing (.notPartitionCapable registered found incapable)
  · intro forest
    rw [List.eq_nil_iff_forall_not_mem]
    intro issue reported
    have kind := forest.orderly.isClean catalog issue reported
    cases (Audit.mem_audit_iff catalog repository issue).mp reported with
    | notPartitionCapable registered found incapable =>
        obtain ⟨root, stored, -, capable⟩ := forest.partitions _ registered
        cases found.symm.trans stored
        exact capable incapable
    | _ => cases kind

-----------------------------------------------------------------------------------------
-- A forest of two trees
-----------------------------------------------------------------------------------------

/-- Two partitions. One has a branch of two nodes and an annotation, which has a branch of its own
and is annotated itself; the other stands alone.
-/
def groveInstances : List Instance :=
  [ (Instance.withChildren "oak" none ["bough"]).annotateWith "label",
    .withChildren "bough" (some "oak") ["twig"],
    .withChildren "twig" (some "bough") [],
    ((Instance.withChildren "label" none ["text"]).annotateWith "stamp").annotating "oak",
    .withChildren "text" (some "label") ["word"],
    .withChildren "word" (some "text") [],
    (Instance.withChildren "stamp" none []).annotating "label",
    .withChildren "ash" none [] ]

/-- The repository of these instances. -/
def grove : Repository :=
  .ofParts { name := "grove" } (IdSet.ofIds ["oak", "ash"]) (Index.ofInstances groveInstances) 0 1

/-- The partitions reach every node by the lists. -/
theorem grove_reached : ∀ id ∈ grove.nodes, Reaches grove.nodes grove.partitions id := by
  have root {id : String} (registered : id ∈ grove.partitions ∧ id ∈ grove.nodes)
      : Reaches grove.nodes grove.partitions id :=
    .root registered.1 registered.2
  have owned {owner id : String} (above : Reaches grove.nodes grove.partitions owner)
      (lists : id ∈ grove.nodes.ownedIds owner ∧ id ∈ grove.nodes)
      : Reaches grove.nodes grove.partitions id :=
    .owned above lists.1 lists.2
  have oak := @root "oak" (by decide +kernel)
  have ash := @root "ash" (by decide +kernel)
  have bough := @owned _ "bough" oak (by decide +kernel)
  have twig := @owned _ "twig" bough (by decide +kernel)
  have label := @owned _ "label" oak (by decide +kernel)
  have text := @owned _ "text" label (by decide +kernel)
  have word := @owned _ "word" text (by decide +kernel)
  have stamp := @owned _ "stamp" label (by decide +kernel)
  intro id indexed
  have member : id ∈ groveInstances.map Instance.id := by
    simpa [grove, ofParts, Index.ofInstances, Index.mem_put_iff] using indexed
  change id ∈ ["oak", "bough", "twig", "label", "text", "word", "stamp", "ash"] at member
  simp only [List.mem_cons, List.not_mem_nil, or_false] at member
  rcases member with rfl | rfl | rfl | rfl | rfl | rfl | rfl | rfl <;> assumption

/-- The audit finds nothing: the first checks are run, and the last one is about what is reached. -/
theorem audit_grove : grove.audit .standard = [] := by
  have reachability : Audit.reachabilityIssues grove.nodes grove.partitions = [] := by
    refine List.eq_nil_iff_forall_not_mem.mpr fun issue reported => ?_
    obtain ⟨id, indexed, unreached, -⟩ := Audit.mem_reachabilityIssues_iff.mp reported
    exact unreached (grove_reached id indexed)
  unfold audit
  dsimp only
  rw [reachability, List.append_nil]
  decide +kernel

end Repository

end ModelRepository
