/-! The routes of the service. Every route has one path and is asked by one method. -/

namespace ModelRepository.Http

/-- The methods that routes are asked by. -/
inductive Method where
  | get
  | post
  deriving DecidableEq

/-- The header that tells by which methods a route may be asked. -/
def Method.allow : Method → String
  | get => "GET,HEAD"
  | post => "POST"

/-- Whether a route that is asked by this method takes a request by the named one. A request for
the headers alone is a request to get. -/
def Method.takes : Method → String → Bool
  | get, name => name = "GET" || name = "HEAD"
  | post, name => name = "POST"

/-- What can be asked of the service. -/
inductive Route where
  | health
  | listPartitions
  | createPartitions
  | deletePartitions
  | store
  | retrieve
  | allocate
  | byClassifier
  | byLanguage
  | summaries
  | metrics
  | repositories
  | createRepository
  | deleteRepository
  | audits
  | snapshot
  deriving DecidableEq

namespace Route

/-- The path of a route. -/
def path : Route → String
  | health => "/health"
  | listPartitions => "/bulk/listPartitions"
  | createPartitions => "/bulk/createPartitions"
  | deletePartitions => "/bulk/deletePartitions"
  | store => "/bulk/store"
  | retrieve => "/bulk/retrieve"
  | allocate => "/bulk/ids"
  | byClassifier => "/inspection/nodesByClassifier"
  | byLanguage => "/inspection/nodesByLanguage"
  | summaries => "/inspection/partitions"
  | metrics => "/inspection/metrics"
  | repositories => "/admin/repositories"
  | createRepository => "/admin/createRepository"
  | deleteRepository => "/admin/deleteRepository"
  | audits => "/admin/checkConsistency"
  | snapshot => "/admin/export"

/-- The method by which a route is asked. -/
def method : Route → Method
  | health | byClassifier | byLanguage | summaries | metrics | repositories | audits
  | snapshot => .get
  | listPartitions | createPartitions | deletePartitions | store | retrieve | allocate
  | createRepository | deleteRepository => .post

/-- All routes. -/
def all : List Route :=
  [health, listPartitions, createPartitions, deletePartitions, store, retrieve, allocate,
    byClassifier, byLanguage, summaries, metrics, repositories, createRepository,
    deleteRepository, audits, snapshot]

/-- The route with the given path. -/
def ofPath? (path : String) : Option Route :=
  all.find? (·.path = path)

end Route

end ModelRepository.Http
