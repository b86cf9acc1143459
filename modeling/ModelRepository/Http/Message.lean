import ModelRepository.Binary.Layout
import ModelRepository.Json.Value

/-! Requests and responses. -/

namespace ModelRepository.Http

/-- A request; the target is a path with or without a query, perhaps behind the address of a
server. -/
structure Request where
  method : String
  target : String
  headers : List (String × String) := []
  body : Binary.Bytes := []

namespace Request

/-- The value of a header; its name may be written in either case. -/
def header? (request : Request) (name : String) : Option String :=
  (request.headers.find? (·.1.toLower = name)).map Prod.snd

/-- What follows the name and port of a server. -/
def dropServer : List Char → List Char
  | '/' :: '/' :: rest => rest.dropWhile fun c => c ≠ '/' && c ≠ '?'
  | _ :: rest => dropServer rest
  | [] => []

/-- The target from its path on, without what follows a number sign, which is not sent to
servers. -/
def location (request : Request) : List Char :=
  let target := request.target.toList.takeWhile (· ≠ '#')
  match target with
  | '/' :: _ => target
  | _ => dropServer target

/-- The path of the target. -/
def path (request : Request) : String :=
  String.ofList (request.location.takeWhile (· ≠ '?'))

/-- The query of the target; empty where there is none. -/
def query (request : Request) : String :=
  String.ofList ((request.location.dropWhile (· ≠ '?')).drop 1)

end Request

/-- Characters that a header may hold if its value is to be read as text. -/
def isHeaderText (value : String) : Bool :=
  value.toList.all fun c => c = '\t' || (32 ≤ c.toNat && c.toNat < 127)

/-- A response. Header names are in lower case. -/
structure Response where
  status : Nat
  headers : List (String × String) := []
  body : String := ""
  deriving DecidableEq, Inhabited

namespace Response

/-- A response without a body. -/
def empty (status : Nat) : Response :=
  { status }

/-- A response in plain text. -/
def text (status : Nat) (body : String) : Response :=
  { status, headers := [("content-type", "text/plain; charset=utf-8")], body }

/-- A response in JSON. -/
def json (status : Nat) (value : Json.Value) : Response :=
  { status, headers := [("content-type", "application/json")], body := value.compact }

/-- Whether the status tells of success. -/
def isSuccess (response : Response) : Bool :=
  200 ≤ response.status && response.status < 300

/-- Adds headers. -/
def withHeaders (response : Response) (headers : List (String × String)) : Response :=
  { response with headers := response.headers ++ headers }

end Response

end ModelRepository.Http
