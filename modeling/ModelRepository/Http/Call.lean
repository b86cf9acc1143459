import ModelRepository.Http.MediaType
import ModelRepository.Http.Parameters
import ModelRepository.Http.Route
import ModelRepository.Interchange.Reading
import ModelRepository.Server.Operation

/-! Reading what a request asks for.
The query is read before the body, the media type before the body's length, and the length before
its content.
-/

namespace ModelRepository.Http

open Json (Decoder)

/-- Why a request is not carried out. -/
inductive Refusal where
  | query
  | mediaType
  | bodyTooLarge
  | malformedBody
  /-- The body is JSON, but not of the shape that the route wants. -/
  | mismatchedBody
  | refused (error : RepositoryError)
  deriving DecidableEq

/-- What a request asks for. -/
inductive Call where
  | health
  /-- A snapshot with what identifies its content. -/
  | snapshot (repository : String)
  /-- An operation of the server; `subject` is shown where the operation has no answer. -/
  | operate (operation : Operation) (subject : String)

/-- The result, or a refusal because of the query. -/
def orQuery {α : Type} : Option α → Except Refusal α
  | some value => .ok value
  | none => .error .query

/-- The repository that the query names. -/
def readRepository (parameters : Parameters) : Except Refusal String :=
  orQuery parameters.repository?

/-- A number that the query gives, besides the repository. -/
def readNumber {α : Type} (parameters : Parameters) (name : String) (value? : String → Option α)
    : Except Refusal (String × Option α) :=
  match parameters.repository?, parameters.read? name value? with
  | some repository, some value => .ok (repository, value)
  | _, _ => .error .query

/-- Reads the body. -/
def readBody {α : Type} (bodyLimit : Nat) (request : Request) (decoder : Decoder α)
    : Except Refusal α :=
  if !(request.header? "content-type").any isJsonMediaType then .error .mediaType
  else if bodyLimit < request.body.length then .error .bodyTooLarge
  else
    match Json.decode decoder request.body with
    | .ok value => .ok value
    | .error .malformed => .error .malformedBody
    | .error .mismatch => .error .mismatchedBody

/-- Reads a body that holds a chunk. -/
def readChunk (bodyLimit : Nat) (request : Request) : Except Refusal Chunk :=
  match readBody bodyLimit request Interchange.documentDecoder with
  | .error refusal => .error refusal
  | .ok document => document.toChunk.mapError .refused

/-- The configuration of a new repository. -/
def configurationDecoder : Decoder Configuration :=
  .record [
    .of "name" .required .text fun name configuration => { configuration with name },
    .of "formatVersion" .defaulted (.alternative FormatVersion.ofText?)
      fun formatVersion configuration => { configuration with formatVersion },
    .of "history" .defaulted (.alternative History.ofText?)
      fun history configuration => { configuration with history }
  ] { name := "" }

/-- The identifiers of the roots to retrieve. -/
def rootsDecoder : Decoder (List String) :=
  .record [.of "ids" .required (.list .text) fun ids _ => ids] []

/-- The number of identifiers in each group of a survey that does not limit it. -/
def defaultGroupLimit : Nat := 1000

/-- A survey of the nodes of a repository in groups. -/
def readSurvey (parameters : Parameters) (query : String → Nat → Query) : Except Refusal Call :=
  match readNumber parameters "limit" (Text.natural? Text.maxWord64) with
  | .error refusal => .error refusal
  | .ok (repository, limit) =>
      .ok (.operate (.ask (query repository (limit.getD defaultGroupLimit))) repository)

/-- A question about the repository that the query names. -/
def readQuestion (parameters : Parameters) (query : String → Query) : Except Refusal Call :=
  (readRepository parameters).map fun repository => .operate (.ask (query repository)) repository

/-- What a request to a route asks for. -/
def Route.call (route : Route) (bodyLimit : Nat) (request : Request) : Except Refusal Call :=
  let parameters := Parameters.ofQuery request.query
  match route with
  | health => .ok .health
  | listPartitions => readQuestion parameters .partitions
  | createPartitions => do
      let repository ← readRepository parameters
      return .operate (.bulkCreate repository (← readChunk bodyLimit request)) repository
  | deletePartitions => do
      let repository ← readRepository parameters
      let ids ← readBody bodyLimit request (.list .text)
      return .operate (.bulkDelete repository ids) repository
  | store => do
      let repository ← readRepository parameters
      return .operate (.bulkStore repository (← readChunk bodyLimit request)) repository
  | retrieve => do
      let (repository, depth) ← readNumber parameters "depthLimit" Text.integer?
      let ids ← readBody bodyLimit request rootsDecoder
      return .operate (.ask (.bulkRetrieve repository ids (depth.getD unboundedFrom))) repository
  | allocate => do
      let (repository, count) ← readNumber parameters "count" Text.integer?
      return .operate (.bulkAllocate repository (← orQuery count)) repository
  | byClassifier => readSurvey parameters .byClassifier
  | byLanguage => readSurvey parameters .byLanguage
  | summaries => readQuestion parameters .summaries
  | metrics => readQuestion parameters .metrics
  | repositories => .ok (.operate (.ask .configurations) "")
  | createRepository => do
      let configuration ← readBody bodyLimit request configurationDecoder
      return .operate (.createRepository configuration) configuration.name
  | deleteRepository => do
      let repository ← readRepository parameters
      return .operate (.deleteRepository repository) repository
  | audits => .ok (.operate (.ask .audits) "")
  | snapshot => (readRepository parameters).map .snapshot

end ModelRepository.Http
