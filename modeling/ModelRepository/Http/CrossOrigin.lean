import ModelRepository.Http.Message
import ModelRepository.Text.Blank

/-! Which origins a browser may call from.
A single asterisk opens the service to everyone. A list is taken without the entries that no header
can hold, and only local origins are left where it has no others.
-/

namespace ModelRepository.Http

/-- The origins that are let in. -/
inductive Origins where
  | any
  | listed (origins : List String)
  deriving DecidableEq

/-- Whether a header can hold a value. -/
def isHeaderValue (value : String) : Bool :=
  value.toList.all fun c => c = '\t' || (32 ≤ c.toNat && c.toNat ≠ 127)

namespace Origins

/-- The origins on the same machine that are let in where nothing is said. -/
def sameMachine : Origins :=
  .listed [
    "http://localhost:3000",
    "http://localhost:8080",
    "http://127.0.0.1:3000",
    "http://127.0.0.1:8080"
  ]

/-- The origins that a setting lets in. -/
def ofSetting : Option String → Origins
  | none => sameMachine
  | some setting =>
      if setting = "*" then .any
      else
        match ((Text.commaParts setting).map Text.strip).filter isHeaderValue with
        | [] => sameMachine
        | origins => .listed origins

/-- The header by which every response lets its caller in. -/
def headers (origins : Origins) (request : Request) : List (String × String) :=
  match origins, request.header? "origin" with
  | any, _ => [("access-control-allow-origin", "*")]
  | listed origins, some origin =>
      if origins.contains origin then [("access-control-allow-origin", origin)] else []
  | listed _, none => []

/-- The headers that tell what may be asked. -/
def preflightHeaders (origins : Origins) : List (String × String) :=
  match origins with
  | any => [("access-control-allow-methods", "*"), ("access-control-allow-headers", "*")]
  | listed _ => [
      ("access-control-allow-methods", "GET,POST,OPTIONS"),
      ("access-control-allow-headers", "content-type,authorization")
    ]

end Origins

end ModelRepository.Http
