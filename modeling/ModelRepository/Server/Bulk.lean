import ModelRepository.Server.State

/-! The checks that raw requests pass before they reach a repository.
Lists of identifiers are bounded, not empty and well-formed, depths and counts are not negative,
and a chunk declares the format of its repository.
-/

namespace ModelRepository

/-- Raw depths from here on mean no limit. -/
def unboundedFrom : Int := 2147483647

/-- The depth that a raw number asks for. -/
def Depth.ofRaw (raw : Int) : Except RepositoryError Depth :=
  if raw < 0 then .error (.invalidRequest (.negativeDepth raw))
  else if unboundedFrom ≤ raw then .ok .unbounded
  else .ok (.atMost raw.toNat)

/-- The number of identifiers that a raw number asks for. -/
def countOfRaw (raw : Int) : Except RepositoryError Nat :=
  if raw < 0 then .error (.invalidRequest (.negativeCount raw))
  else if raw.toNat > maxAllocatedIds then
    .error (.invalidRequest (.countTooLarge raw.toNat))
  else .ok raw.toNat

/-- The first offence of a requested list of identifiers. -/
def idListError? (ids : List String) : Option RepositoryError :=
  if ids.isEmpty then some (.invalidRequest .emptyIdList)
  else if ids.length > maxRequestIds then some (.invalidRequest (.tooManyIds ids.length))
  else invalidIdIn? ids

namespace Server

/-- The first offence of a chunk that is meant for the named repository. -/
def chunkError? (server : Server) (name : String) (chunk : Chunk) : Option RepositoryError :=
  if chunk.instances.isEmpty then some (.invalidRequest .emptyChunk)
  else
    match server.repository name with
    | .error error => some error
    | .ok repository => chunk.shapeError? repository.configuration.formatVersion

/-- Creates partitions from a chunk. -/
def bulkCreate (server : Server) (name : String) (chunk : Chunk)
    : Except RepositoryError Written :=
  match server.chunkError? name chunk with
  | some error => .error error
  | none => server.createPartitions name chunk.instances

/-- Stores a chunk. -/
def bulkStore (server : Server) (name : String) (chunk : Chunk)
    : Except RepositoryError Written :=
  match server.chunkError? name chunk with
  | some error => .error error
  | none => server.store name chunk.instances

/-- Deletes the listed partitions. -/
def bulkDelete (server : Server) (name : String) (ids : List String)
    : Except RepositoryError Written :=
  match idListError? ids with
  | some error => .error error
  | none => server.deletePartitions name ids

/-- Retrieves subtrees to a raw depth; unknown identifiers are reported. -/
def bulkRetrieve (server : Server) (name : String) (ids : List String) (rawDepth : Int)
    : Except RepositoryError Retrieved :=
  match idListError? ids with
  | some error => .error error
  | none =>
      match Depth.ofRaw rawDepth with
      | .error error => .error error
      | .ok depth =>
          match server.repository name with
          | .error error => .error error
          | .ok repository => repository.retrieve ids depth .report

/-- Allocates a raw number of identifiers. -/
def bulkAllocate (server : Server) (name : String) (rawCount : Int)
    : Except RepositoryError (Server × List String) :=
  match countOfRaw rawCount with
  | .error error => .error error
  | .ok count => server.allocate name count

end Server

end ModelRepository
