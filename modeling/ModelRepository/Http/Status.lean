import ModelRepository.Error

/-! The status codes under which refusals are reported over HTTP. -/

namespace ModelRepository

/-- What does not exist is not found, a taken name is a conflict, and every other fault of the
request is a bad request; the rest is the server's own trouble. -/
def RepositoryError.status (error : RepositoryError) : Nat :=
  match error with
  | repositoryNotFound _ | partitionNotFound _ | unknownNodes _ => 404
  | repositoryAlreadyExists _ => 409
  | undecodable _ => 400
  | error => if error.isValidation then 400 else 500

end ModelRepository
