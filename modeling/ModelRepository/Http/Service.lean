import ModelRepository.Archive
import ModelRepository.Http.ApiKey
import ModelRepository.Http.Call
import ModelRepository.Http.CrossOrigin
import ModelRepository.Http.Status
import ModelRepository.Interchange.Reports
import ModelRepository.Settings

/-! The HTTP service over a server.
A request passes the limit on the rate of requests and the key check, finds its route, is read, and
is carried out; each of these steps may answer it. Whatever the answer, the headers that let other
origins in are added last.
-/

namespace ModelRepository.Http

open Json (Value)

/-- The release of the program. -/
def programVersion : String :=
  "0.4.2"

/-- The envelope of a success. Identifiers that are unknown are listed where there are any. -/
def success (data : Value) (unknown : List String := []) : Value :=
  .object ([("success", .bool true), ("data", data)]
    ++ if unknown.isEmpty then [] else [("unknown", .texts unknown)])

/-- The envelope of a refusal. -/
def failure (error : RepositoryError) : Value :=
  .object [("success", .bool false), ("error", .text error.message)]

/-- The response to a refused operation. -/
def errorResponse (error : RepositoryError) : Response :=
  .json error.status (failure error)

/-- The response to a request that is not carried out. -/
def Refusal.response : Refusal → Response
  | query => .text 400 "Failed to deserialize query string"
  | mediaType => .text 415 "Expected request with `Content-Type: application/json`"
  | bodyTooLarge => .text 413 "Failed to buffer the request body: length limit exceeded"
  | malformedBody => .text 400 "Failed to parse the request body as JSON"
  | mismatchedBody => .text 422 "Failed to deserialize the JSON body into the target type"
  | refused error => errorResponse error

/-- The envelope of an answer; `subject` stands in where there is nothing to tell. -/
def answerValue (subject : String) : Answer → Value
  | .done => success (.text subject)
  | .flag value => success (.bool value)
  | .subscription number => success (.number number)
  | .token text => success (.object [("version", .text text)])
  | .name text => success (.text text)
  | .ids ids => success (.texts ids)
  | .configurations list => success (.array (list.map Interchange.configurationValue))
  | .configuration value => success (Interchange.configurationValue value)
  | .retrieved result =>
      success (Interchange.documentValue (.ofChunk result.chunk)) result.unknown
  | .chunk chunk => success (Interchange.documentValue (.ofChunk chunk))
  | .classifierGroups groups =>
      success (.array (groups.map fun (key, group) => Interchange.classifierGroupValue key group))
  | .languageGroups groups =>
      success (.array (groups.map fun (key, group) => Interchange.languageGroupValue key group))
  | .summaries list => success (.array (list.map Interchange.summaryValue))
  | .metrics metrics => success (Interchange.metricsValue metrics)
  | .issues issues => success (Interchange.auditValue issues)
  | .audits audits => success (Interchange.auditsValue audits)
  | .file bytes => success (.text (Text.base64 bytes))

/-- A snapshot of a repository, with the checksum and the hash of its content. -/
def snapshotValue (server : Server) (name : String) : Except RepositoryError Value :=
  match server.repository name with
  | .error error => .error error
  | .ok repository =>
      let file := SnapshotFile.save repository
      match SnapshotFile.load file with
      | .error error => .error error
      | .ok repository =>
          let content := repository.retrieveAll
          .ok (.object [
            ("data", .text (Text.base64 file)),
            ("checksum", .number content.checksum.toNat),
            ("hash", .text content.hash)
          ])

/-- The server after a request, the response, and what observers were told. -/
structure Reply where
  server : Server
  response : Response
  notices : List Notice := []

namespace Reply

/-- The reply that changes nothing. -/
def unchanged (server : Server) (response : Response) : Reply :=
  { server, response }

/-- The reply with another response. -/
def mapResponse (reply : Reply) (change : Response → Response) : Reply :=
  { reply with response := change reply.response }

end Reply

/-- Carries out what a request asks for. -/
def Call.perform (server : Server) : Call → Reply
  | health =>
      .unchanged server
        (.json 200 (.object [("status", .text "ok"), ("version", .text programVersion)]))
  | snapshot repository =>
      .unchanged server
        (match snapshotValue server repository with
        | .ok value => .json 200 (success value)
        | .error error => errorResponse error)
  | operate operation subject =>
      let outcome := server.perform operation
      match outcome.answer with
      | .ok answer =>
          { server := outcome.server
            response := .json 200 (answerValue subject answer)
            notices := outcome.notices }
      | .error error =>
          { server := outcome.server
            response := errorResponse error
            notices := outcome.notices }

/-- The terms on which the service is offered at the time of a request. -/
structure Service where
  origins : Origins := .sameMachine
  bodyLimit : Nat
  /-- Whether the limit on the rate of requests turns the request away. The limit goes by a clock,
  which is not described here, so what it decides at the time is given. -/
  exhausted : Bool := false
  key : Option ApiKey := none

namespace Service

/-- The service that settings describe. Where they set no limit on the rate of requests, it is of no
account whether one would be exhausted. -/
def ofSettings (settings : ServiceSettings) (exhausted : Bool := false) : Service where
  origins := .ofSetting settings.corsOrigins
  bodyLimit := settings.bodyLimit
  exhausted := settings.rateLimit ≠ 0 && exhausted
  key := settings.apiKey.map ApiKey.mk

/-- What the caller presents as the key, with or without the name of the scheme. -/
def presented? (request : Request) : Option String :=
  ((request.header? "authorization").filter isHeaderText).map fun value =>
    if value.startsWith "Bearer " then String.ofList (value.toList.drop 7) else value

/-- Whether a request is let in. Everybody may ask for the health of the service. -/
def admits (service : Service) (request : Request) : Bool :=
  match service.key with
  | none => true
  | some key => request.path = Route.health.path || (presented? request).any key.admits

/-- The reply to a request that asks for something, before other origins are let in. -/
def reply (service : Service) (server : Server) (request : Request) : Reply :=
  if service.exhausted then .unchanged server (.text 429 "Too Many Requests")
  else if !service.admits request then .unchanged server (.text 401 "Unauthorized")
  else
    match Route.ofPath? request.path with
    | none => .unchanged server (.empty 404)
    | some route =>
        if !route.method.takes request.method then .unchanged server (.empty 405)
        else
          match route.call service.bodyLimit request with
          | .error refusal => .unchanged server refusal.response
          | .ok call => call.perform server

/-- The header that tells by which methods a path may be asked, for requests by others. -/
def allowHeaders (request : Request) : List (String × String) :=
  match Route.ofPath? request.path with
  | none => []
  | some route =>
      if route.method.takes request.method then [] else [("allow", route.method.allow)]

/-- The reply to a request. A browser that asks what it may do is told so without further checks,
and a request for the headers alone has no body in its response. -/
def respond (service : Service) (server : Server) (request : Request) : Reply :=
  let headers := service.origins.headers request ++ allowHeaders request
  if request.method = "OPTIONS" then
    .unchanged server
      ((Response.empty 200).withHeaders (headers ++ service.origins.preflightHeaders))
  else
    (service.reply server request).mapResponse fun response =>
      { response.withHeaders headers with
        body := if request.method = "HEAD" then "" else response.body }

end Service

end ModelRepository.Http
