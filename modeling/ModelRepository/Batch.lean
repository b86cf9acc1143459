import ModelRepository.Chunk
import ModelRepository.Error
import ModelRepository.Index

/-! What a submitted batch must satisfy before it may change an index.
Every check names the first offence it meets, so a refusal depends on the order of the batch
while acceptance does not. The checks of shape look at the batch alone; the checks of place also
ask which identifiers are indexed and which roots are registered.
-/

namespace ModelRepository

/-- The refusal of an identifier outside the grammar. -/
def invalidId? (id : String) : Option RepositoryError :=
  if isValidId id then none else some (.invalidId id)

/-- The refusal of the first identifier outside the grammar. -/
def invalidIdIn? (ids : List String) : Option RepositoryError :=
  ids.findSome? invalidId?

namespace Instance

/-- The refusal of an entry that points nowhere. -/
def emptyTarget? (node : Instance) : Option RepositoryError :=
  if node.references.any (·.targets.any Target.isEmpty) then
    some (.invalidReference node.id)
  else none

/-- The refusal of a property value beyond the limit. -/
def oversizedProperty? (node : Instance) : Option RepositoryError :=
  if node.properties.any fun property =>
      property.value.any fun value => value.utf8ByteSize > maxPropertyBytes then
    some (.invalidRequest (.propertyTooLong node.id))
  else none

/-- The first offence against the shape of an instance. Targets of references are not held to
the grammar, since references may dangle. -/
def shapeError? (node : Instance) : Option RepositoryError :=
  invalidId? node.id
    <|> node.parent.bind invalidId?
    <|> node.annotated.bind invalidId?
    <|> invalidIdIn? node.childIds
    <|> invalidIdIn? node.annotations
    <|> node.emptyTarget?
    <|> node.oversizedProperty?

/-- The first offence against the place of an instance: it owns an identifier that is not
`known`, or it is a root that is not `registered`. -/
def placeError? (known registered : String → Bool) (node : Instance) : Option RepositoryError :=
  match node.ownedIds.find? fun id => !known id with
  | some missing => some (.danglingContainment node.id missing)
  | none =>
      if node.isRoot && !registered node.id then some (.unregisteredPartition node.id) else none

end Instance

namespace Batch

/-- The first offence of a batch in which the identifiers in `seen` are taken. -/
def contentError? (seen : IdSet) : List Instance → Option RepositoryError
  | [] => none
  | node :: rest =>
      match node.shapeError? with
      | some error => some error
      | none =>
          if seen.contains node.id then some (.duplicateId node.id)
          else contentError? (seen.insert node.id) rest

/-- The first offence against the shape of a batch. -/
def shapeError? (instances : List Instance) : Option RepositoryError :=
  if instances.length > maxChunkInstances then
    some (.invalidRequest (.tooManyInstances instances.length))
  else
    contentError? ∅ instances

/-- The first offence of a batch that is to be stored into `index`, where the roots in
`registered` are partitions. -/
def storeError? (index : Index) (registered : String → Bool) (instances : List Instance)
    : Option RepositoryError :=
  match shapeError? instances with
  | some error => some error
  | none =>
      let submitted := IdSet.ofIds (instances.map Instance.id)
      instances.findSome?
        (Instance.placeError? (fun id => submitted.contains id || index.contains id) registered)

end Batch

namespace Chunk

/-- The first offence of a chunk that is meant for a repository declaring `expected`. -/
def shapeError? (chunk : Chunk) (expected : FormatVersion) : Option RepositoryError :=
  if chunk.formatVersion ≠ expected then
    some (.invalidRequest (.formatMismatch chunk.formatVersion expected))
  else
    Batch.shapeError? chunk.instances

end Chunk

/-- Succeeds exactly when no offence was found. -/
def refuseOn (error : Option RepositoryError) : Except RepositoryError Unit :=
  match error with
  | some error => .error error
  | none => .ok ()

end ModelRepository
