import ModelRepository.Http.Service
import ModelRepository.Proofs.Repository.Consistency
import ModelRepository.Proofs.Server.Refusal

/-! Requests that are not met, and requests that only ask, leave the server as it is.
A request is turned away before it reaches the server, or its operation is refused there; only
what an operation answers is told as a success. Which requests may change anything shows from
their routes.
-/

namespace ModelRepository

namespace Http

-----------------------------------------------------------------------------------------
-- Statuses
-----------------------------------------------------------------------------------------

/-- Every refusal is reported under a status that tells of failure, by cases on its cause. -/
theorem isSuccess_errorResponse (error : RepositoryError)
    : (errorResponse error).isSuccess = false := by
  have failing : ¬ error.status < 300 := by
    cases error <;> simp [RepositoryError.status, RepositoryError.isValidation]
  simp [errorResponse, Response.isSuccess, Response.json, failing]

-----------------------------------------------------------------------------------------
-- Calls
-----------------------------------------------------------------------------------------

/-- Whether a route is there for questions only. -/
def Route.reads : Route → Bool
  | createPartitions | deletePartitions | store | allocate | createRepository
  | deleteRepository => false
  | _ => true

/-- Whether a request is for questions only, as all are that find no route. -/
def Request.reads (request : Request) : Bool :=
  (Route.ofPath? request.path).all Route.reads

namespace Service

end Service

/-- A request to delete a partition along with a node that is none. -/
def deletion : Request :=
  { method := "POST"
    target := "/bulk/deletePartitions?repository=tidy"
    headers := [("content-type", "application/json")]
    body := "[\"root\",\"left\"]".toUTF8.data.toList }

end Http

end ModelRepository
