import ModelRepository.Audit
import ModelRepository.Inspection
import ModelRepository.Observers
import ModelRepository.SnapshotFile
import ModelRepository.Tables

/-! A server of named repositories.
Every write goes to memory and, on a server with a database, to the tables as well, before its
observers are told. A refused operation leaves the server as it was.
-/

namespace ModelRepository

/-- Where a server keeps its repositories besides its memory. -/
inductive Storage where
  | memory
  | database (tables : Tables)
  deriving Inhabited

/-- Changes the tables, where there are any. -/
def Storage.update (storage : Storage) (change : Tables → Tables) : Storage :=
  match storage with
  | .memory => .memory
  | .database tables => .database (change tables)

/-- The repositories of a server, with all that surrounds them. -/
structure Server where
  catalog : Catalog := .standard
  repositories : Std.ExtTreeMap String Repository := ∅
  observers : Observers := {}
  storage : Storage := .memory
  deriving Inhabited

namespace Server

/-- A server without repositories that keeps everything in memory. -/
def inMemory (catalog : Catalog) : Server :=
  { catalog }

/-- A server with the repositories that the tables hold. -/
def ofTables (catalog : Catalog) (tables : Tables) : Except RepositoryError Server :=
  match tables.load with
  | .error error => .error error
  | .ok repositories =>
      .ok {
        catalog
        repositories := repositories.foldl
          (fun served repository => served.insert repository.name repository) ∅
        storage := .database tables }

/-- Whether the server writes to a database. -/
def isPersistent (server : Server) : Bool :=
  match server.storage with
  | .memory => false
  | .database _ => true

/-- The repository of the given name. -/
def repository (server : Server) (name : String) : Except RepositoryError Repository :=
  match server.repositories[name]? with
  | some repository => .ok repository
  | none => .error (.repositoryNotFound name)

/-- Why a repository of this configuration cannot be added. -/
def admissionError? (server : Server) (configuration : Configuration) : Option RepositoryError :=
  if !isValidName configuration.name then
    some (.invalidRequest (.invalidName configuration.name))
  else if configuration.history = .enabled then
    some (.historyUnsupported configuration.name)
  else if server.repositories.contains configuration.name then
    some (.repositoryAlreadyExists configuration.name)
  else none

/-- Adds a repository and writes it in full. -/
def add (server : Server) (repository : Repository) : Server :=
  { server with
    repositories := server.repositories.insert repository.name repository
    storage := server.storage.update (·.save repository) }

/-- Creates an empty repository. -/
def createRepository (server : Server) (configuration : Configuration)
    : Except RepositoryError Server :=
  match server.admissionError? configuration with
  | some error => .error error
  | none => .ok (server.add (.create configuration))

/-- Creates the default repository when there is no repository at all, and tells whether it
did. -/
def ensureDefault (server : Server) : Except RepositoryError (Server × Bool) :=
  if server.repositories.isEmpty then
    match server.createRepository { name := defaultRepository } with
    | .error error => .error error
    | .ok server => .ok (server, true)
  else .ok (server, false)

/-- Deletes a repository with everything in it; nobody is told, and its watchers are dropped. -/
def deleteRepository (server : Server) (name : String) : Except RepositoryError Server :=
  if server.repositories.contains name then
    .ok { server with
      repositories := server.repositories.erase name
      observers := server.observers.forget name
      storage := server.storage.update (·.delete name) }
  else .error (.repositoryNotFound name)

/-- What a write answers: the server after it, its version token, and what observers hear. -/
structure Written where
  server : Server
  token : String
  notices : List Notice

/-- Runs a write on one repository. Once it is accepted the version moves on, the tables take
over what changed, and observers are told. -/
def write (server : Server) (name : String)
    (change : Repository → Except RepositoryError (Repository × Changes))
    : Except RepositoryError Written :=
  match server.repository name with
  | .error error => .error error
  | .ok repository =>
      match change repository with
      | .error error => .error error
      | .ok (repository, changes) =>
          let repository := repository.bump
          .ok {
            server := { server with
              repositories := server.repositories.insert name repository
              observers := server.observers.after name changes
              storage := server.storage.update (·.apply repository changes) }
            token := repository.versionToken
            notices := server.observers.notices name changes }

/-- Registers the roots of a batch as partitions and stores the batch. -/
def createPartitions (server : Server) (name : String) (batch : List Instance)
    : Except RepositoryError Written :=
  server.write name (·.createPartitions batch)

/-- Stores a batch. -/
def store (server : Server) (name : String) (batch : List Instance)
    : Except RepositoryError Written :=
  server.write name (·.store batch)

/-- Deletes partitions with everything that only they reach. -/
def deletePartitions (server : Server) (name : String) (ids : List String)
    : Except RepositoryError Written :=
  server.write name (·.deletePartitions ids)

/-- Allocates identifiers; this moves the counter but not the version. -/
def allocate (server : Server) (name : String) (count : Nat)
    : Except RepositoryError (Server × List String) :=
  match server.repository name with
  | .error error => .error error
  | .ok repository =>
      match repository.allocate count with
      | .error error => .error error
      | .ok (repository, ids) =>
          .ok (
            { server with
              repositories := server.repositories.insert name repository
              storage := server.storage.update (·.apply repository {}) },
            ids)

/-- Adds the repository that a snapshot file holds and tells its name. The content is taken as
it is. -/
def importSnapshot (server : Server) (file : Binary.Bytes)
    : Except RepositoryError (Server × String) :=
  match SnapshotFile.decode file with
  | .error error => .error error
  | .ok snapshot =>
      match server.admissionError? snapshot.configuration with
      | some error => .error error
      | none => .ok (server.add (.ofSnapshot snapshot), snapshot.configuration.name)

/-- Watches an indexed node until it is deleted. -/
def watch (server : Server) (name node : String) (observer : Observer)
    : Except RepositoryError Server :=
  match server.repository name with
  | .error error => .error error
  | .ok repository =>
      if repository.nodes.contains node then
        .ok { server with observers := server.observers.watch ⟨name, node⟩ observer }
      else .error (.unknownNodes [node])

/-- The configurations of all repositories, in ascending order of their names. -/
def configurations (server : Server) : List Configuration :=
  server.repositories.values.map Repository.configuration

/-- The audits of all repositories, in ascending order of their names. -/
def audits (server : Server) : List (String × List Issue) :=
  server.repositories.toList.map fun entry => (entry.1, entry.2.audit server.catalog)

end Server

end ModelRepository
