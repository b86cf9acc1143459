/-! The key that callers of the service present. -/

namespace ModelRepository.Http

/-- A key; its text is never shown. -/
structure ApiKey where
  secret : String
  deriving DecidableEq

namespace ApiKey

/-- Whether what a caller presents is the key. -/
def admits (key : ApiKey) (presented : String) : Bool :=
  key.secret = presented

/-- The text form of every key. -/
def display (_ : ApiKey) : String :=
  "ApiKey(..)"

end ApiKey

end ModelRepository.Http
