import ModelRepository.Batch
import ModelRepository.Configuration
import ModelRepository.Retrieval
import ModelRepository.Update

/-! One repository: its partitions, its index, its version and its identifier counter.
A write is checked against the untouched state and then applied as a whole, so a refused write
has changed nothing.
-/

namespace ModelRepository

/-- The last value of a counter. A counter that has reached it stays there. -/
def lastCount : UInt64 := 18446744073709551615

/-- The next value of a counter. -/
def nextCount (count : UInt64) : UInt64 :=
  if count = lastCount then lastCount else count + 1

/-- Counting moves a counter on until its last value. -/
theorem toNat_nextCount (count : UInt64)
    : (nextCount count).toNat = min (count.toNat + 1) lastCount.toNat := by
  unfold nextCount
  split
  · rename_i isLast
    subst isLast
    decide
  · rename_i notLast
    have bound : count.toNat < lastCount.toNat := by
      have := count.toNat_lt
      have differs : count.toNat ≠ lastCount.toNat := fun same => notLast (UInt64.toNat_inj.mp same)
      have : lastCount.toNat = 18446744073709551615 := by decide
      omega
    have limit : lastCount.toNat = 18446744073709551615 := by decide
    rw [UInt64.toNat_add]
    have : (1 : UInt64).toNat = 1 := by decide
    omega

/-- A repository of model instances. -/
structure Repository where
  configuration : Configuration
  partitions : IdSet := ∅
  nodes : Index := ∅
  version : UInt64 := 0
  nextId : UInt64 := 1
  deriving DecidableEq, Inhabited

/-- The identifier with the given number. -/
def allocatedId (number : UInt64) : String :=
  "id-" ++ toString number.toNat

/-- The first number from `number` on whose identifier is not indexed. There is none when the
counter reaches its last value and that identifier is indexed as well. -/
def freeNumber? (index : Index) (number : UInt64) : Option UInt64 :=
  if index.contains (allocatedId number) then
    if number = lastCount then none else freeNumber? index (nextCount number)
  else some number
termination_by lastCount.toNat - number.toNat
decreasing_by
  rename_i notLast
  have bound := number.toNat_lt
  have differs : number.toNat ≠ lastCount.toNat := fun same => notLast (UInt64.toNat_inj.mp same)
  have limit : lastCount.toNat = 18446744073709551615 := by decide
  rw [toNat_nextCount]
  omega

/-- Allocates `count` identifiers that are not indexed, in ascending order after those in
`taken`, and tells the number to go on from. -/
def allocateFrom (index : Index) (taken : List String) (number : UInt64)
    : Nat → Option (List String × UInt64)
  | 0 => some (taken.reverse, number)
  | count + 1 =>
      match freeNumber? index number with
      | none => none
      | some free => allocateFrom index (allocatedId free :: taken) (nextCount free) count

namespace Repository

/-- An empty repository. -/
def create (configuration : Configuration) : Repository :=
  { configuration }

/-- The repository with the given parts. Identifier numbers start at one. -/
def ofParts (configuration : Configuration) (partitions : IdSet) (nodes : Index)
    (version nextId : UInt64) : Repository :=
  { configuration, partitions, nodes, version, nextId := if nextId = 0 then 1 else nextId }

/-- The name of the repository. -/
def name (repository : Repository) : String :=
  repository.configuration.name

/-- The token that stands for the current version. -/
def versionToken (repository : Repository) : String :=
  "v-" ++ toString repository.version.toNat

/-- Moves on to the next version. -/
def bump (repository : Repository) : Repository :=
  { repository with version := nextCount repository.version }

/-- Applies an accepted batch to the repository whose partitions become `partitions`. -/
def commit (repository : Repository) (partitions : IdSet) (changes : Changes)
    (batch : List Instance) : Repository × Changes :=
  let update := ((Update.mk repository.nodes changes).apply batch).finish partitions
  ({ repository with partitions, nodes := update.nodes }, update.changes)

/-- Stores a batch: every instance replaces the stored one, and what the partitions no longer
reach is swept away. -/
def store (repository : Repository) (batch : List Instance)
    : Except RepositoryError (Repository × Changes) :=
  match Batch.storeError? repository.nodes repository.partitions.contains batch with
  | some error => .error error
  | none => .ok (repository.commit repository.partitions {} batch)

/-- Registers the roots of a batch that are not registered yet, and stores the batch. -/
def createPartitions (repository : Repository) (batch : List Instance)
    : Except RepositoryError (Repository × Changes) :=
  let roots := batch.filter Instance.isRoot
  if roots.isEmpty then .error (.invalidRequest .noPartitionRoot)
  else
    let added := IdSet.ofIds
      ((roots.map Instance.id).filter fun id => !repository.partitions.contains id)
    let registered := fun id => repository.partitions.contains id || added.contains id
    match Batch.storeError? repository.nodes registered batch with
    | some error => .error error
    | none =>
        .ok (repository.commit (added.foldl Std.ExtTreeSet.insert repository.partitions)
          { partitionsAdded := added } batch)

/-- Unregisters partitions; what only they reached is swept away. -/
def deletePartitions (repository : Repository) (ids : List String)
    : Except RepositoryError (Repository × Changes) :=
  match ids.find? fun id => !repository.partitions.contains id with
  | some missing => .error (.partitionNotFound missing)
  | none =>
      let removed := IdSet.ofIds ids
      .ok (repository.commit (repository.partitions.filter fun id => !removed.contains id)
        { partitionsRemoved := removed } [])

/-- Allocates `count` identifiers that are not indexed and were not allocated before. -/
def allocate (repository : Repository) (count : Nat)
    : Except RepositoryError (Repository × List String) :=
  match allocateFrom repository.nodes [] repository.nextId count with
  | some (ids, nextId) => .ok ({ repository with nextId }, ids)
  | none => .error (.idsExhausted repository.name)

/-- Collects the subtrees under `ids` within `depth`. -/
def retrieve (repository : Repository) (ids : List String) (depth : Depth)
    (policy : UnknownPolicy) : Except RepositoryError Retrieved :=
  let unknown := Retrieval.unknown repository.nodes ids
  if policy = .failFast && !unknown.isEmpty then .error (.unknownNodes unknown)
  else
    .ok {
      chunk := .ofInstances repository.configuration.formatVersion
        (Retrieval.collect repository.nodes ids depth)
      unknown }

/-- Everything that the partitions reach, as one chunk. -/
def retrieveAll (repository : Repository) : Chunk :=
  .ofInstances repository.configuration.formatVersion
    (Retrieval.collect repository.nodes repository.partitions.toList .unbounded)

end Repository

/-- The full state of a repository in a form that can be written down. -/
structure Snapshot where
  configuration : Configuration
  partitions : List String
  nodes : List Instance
  version : UInt64
  nextId : UInt64
  deriving DecidableEq, Inhabited

/-- The full state of a repository. -/
def Repository.toSnapshot (repository : Repository) : Snapshot :=
  { configuration := repository.configuration
    partitions := repository.partitions.toList
    nodes := repository.nodes.values
    version := repository.version
    nextId := repository.nextId }

/-- The repository that a snapshot describes; of instances that share an identifier the last one
counts. -/
def Repository.ofSnapshot (snapshot : Snapshot) : Repository :=
  .ofParts snapshot.configuration (IdSet.ofIds snapshot.partitions)
    (Index.ofInstances snapshot.nodes) snapshot.version snapshot.nextId

end ModelRepository
