import ModelRepository.Server.Operation

/-! Refused operations and questions leave a server as it is.
A refusal is found before anything is changed, whichever of its checks an operation fails and
however late in a batch or list, so the outcome of a refused operation is the server from before
and silence.
-/

namespace ModelRepository.Server

variable {server : Server} {error : RepositoryError}

theorem quietly_of_refused {result : Except RepositoryError (Server × Answer)}
    (refused : (server.quietly result).answer = .error error)
    : server.quietly result = { server, answer := .error error } := by
  cases result with
  | error reason =>
      cases refused
      rfl
  | ok done => cases refused

theorem loudly_of_refused {result : Except RepositoryError Written}
    (refused : (server.loudly result).answer = .error error)
    : server.loudly result = { server, answer := .error error } := by
  cases result with
  | error reason =>
      cases refused
      rfl
  | ok written => cases refused

/-- The outcome of a refused operation is its refusal alone, by cases on the operation. -/
theorem perform_of_refused {operation : Operation}
    (refused : (server.perform operation).answer = .error error)
    : server.perform operation = { server, answer := .error error } := by
  cases operation with
  | ask query =>
      rw [← refused]
      rfl
  | createRepository | ensureDefault | deleteRepository | allocate | bulkAllocate
  | importSnapshot | watch => exact quietly_of_refused refused
  | createPartitions | store | deletePartitions | bulkCreate | bulkStore | bulkDelete =>
      exact loudly_of_refused refused
  -- Whoever subscribes or leaves is never refused.
  | subscribe | unsubscribe => cases refused

end ModelRepository.Server
