import ModelRepository.Binary.Records
import ModelRepository.Error
import ModelRepository.Grouping
import ModelRepository.NodeAddress
import ModelRepository.Repository

/-! Durable tables, from which repositories come back when a server opens again.
Each repository has one record row, a row for every node and a row for every partition. A write
touches the rows that its changes name, and always the record row.
-/

namespace ModelRepository

open Binary (Bytes)

/-- What the record row of a repository holds. -/
structure Record where
  configuration : Configuration
  version : UInt64
  nextId : UInt64
  deriving DecidableEq

namespace Record

/-- The record of a repository. -/
def of (repository : Repository) : Record :=
  ⟨repository.configuration, repository.version, repository.nextId⟩

/-- The repository of a record with the given partitions and nodes. -/
def assemble (record : Record) (partitions : List String) (nodes : List (String × Instance))
    : Repository :=
  .ofParts record.configuration (IdSet.ofIds partitions)
    (nodes.foldl (fun index entry => index.insert entry.1 entry.2) ∅) record.version record.nextId

open Binary.Layout in
/-- The configuration comes first, then the two counters. -/
def layout : Binary.Layout Record :=
  (pair Binary.configuration (pair word64 word64)).via
    (fun record => (record.configuration, record.version, record.nextId))
    (fun (configuration, version, nextId) => ⟨configuration, version, nextId⟩)

end Record

/-- The rows of all repositories. -/
structure Tables where
  records : Std.ExtTreeMap String Bytes := ∅
  nodes : Std.ExtTreeMap NodeAddress Bytes := ∅
  partitions : Std.ExtTreeSet NodeAddress := ∅
  deriving DecidableEq, Inhabited

namespace Tables

/-- Puts the row of a node. -/
def putNode (tables : Tables) (repository id : String) (node : Instance) : Tables :=
  { tables with nodes := tables.nodes.insert ⟨repository, id⟩ (Binary.node.encode node) }

/-- Puts the row of a node of `repository`, if it is there. -/
def putStored (tables : Tables) (repository : Repository) (id : String) : Tables :=
  match repository.nodes[id]? with
  | some node => tables.putNode repository.name id node
  | none => tables

/-- Puts the row of a partition. -/
def putPartition (tables : Tables) (repository id : String) : Tables :=
  { tables with partitions := tables.partitions.insert ⟨repository, id⟩ }

/-- Puts the record row of a repository. -/
def putRecord (tables : Tables) (repository : Repository) : Tables :=
  { tables with
    records := tables.records.insert repository.name
      (Record.layout.encode (.of repository)) }

/-- The identifiers in the rows of a repository: the addresses, which are in ascending order, are
scanned from the first one that the repository can have up to one of another repository. -/
def idsUnder (repository : String) (addresses : List NodeAddress) : List String :=
  ((addresses.dropWhile fun address => compare address ⟨repository, ""⟩ = .lt).takeWhile
    (·.repository = repository)).map NodeAddress.id

/-- Removes the node rows and partition rows of a repository. -/
def dropContent (tables : Tables) (repository : String) : Tables :=
  { tables with
    nodes := (idsUnder repository tables.nodes.keys).foldl
      (fun rows id => rows.erase ⟨repository, id⟩) tables.nodes
    partitions := (idsUnder repository tables.partitions.toList).foldl
      (fun rows id => rows.erase ⟨repository, id⟩) tables.partitions }

/-- Writes a repository in full, in place of any rows under its name. -/
def save (tables : Tables) (repository : Repository) : Tables :=
  let tables := tables.dropContent repository.name
  let tables := repository.nodes.foldl
    (fun tables id node => tables.putNode repository.name id node) tables
  let tables := repository.partitions.foldl
    (fun tables id => tables.putPartition repository.name id) tables
  tables.putRecord repository

/-- Writes what a write changed, given the repository after it. -/
def apply (tables : Tables) (repository : Repository) (changes : Changes) : Tables :=
  let name := repository.name
  let partitions := changes.partitionsRemoved.foldl
    (fun rows id => rows.erase ⟨name, id⟩) tables.partitions
  let tables := changes.partitionsAdded.foldl (fun tables id => tables.putPartition name id)
    { tables with partitions }
  let nodes := changes.deleted.foldl (fun rows id => rows.erase ⟨name, id⟩) tables.nodes
  let tables := changes.upserted.foldl (fun tables id => tables.putStored repository id)
    { tables with nodes }
  tables.putRecord repository

/-- Removes every row of a repository. -/
def delete (tables : Tables) (repository : String) : Tables :=
  let tables := tables.dropContent repository
  { tables with records := tables.records.erase repository }

/-- Reads the rows of a list in order. -/
def decodeRows {κ α : Type} (layout : Binary.Layout α) (decoded : List (κ × α))
    : List (κ × Bytes) → Except RepositoryError (List (κ × α))
  | [] => .ok decoded.reverse
  | (key, bytes) :: rest =>
      match layout.decode bytes with
      | .error fault => .error (.undecodable (.storedRow fault))
      | .ok value => decodeRows layout ((key, value) :: decoded) rest

/-- The repositories that the rows describe, in ascending order of their names. -/
def load (tables : Tables) : Except RepositoryError (List Repository) :=
  match decodeRows Record.layout [] tables.records.toList with
  | .error error => .error error
  | .ok records =>
      match decodeRows Binary.node [] tables.nodes.toList with
      | .error error => .error error
      | .ok nodes =>
          let nodes := group (nodes.map fun row => (row.1.repository, (row.1.id, row.2)))
          let partitions := group (tables.partitions.toList.map fun row =>
            (row.repository, row.id))
          .ok (records.map fun row =>
            row.2.assemble (partitions.getD row.1 []) (nodes.getD row.1 []))

end Tables

end ModelRepository
