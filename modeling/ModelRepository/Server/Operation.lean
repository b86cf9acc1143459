import ModelRepository.Server.Bulk

/-! Everything that can be asked of a server, as data.
Queries look at a server and operations may change it. `perform` carries out one operation;
after a refusal the server is the one before, and nobody has been told anything.
-/

namespace ModelRepository

/-- A question about a server. -/
inductive Query where
  | configurations
  | isPersistent
  | audits
  | configuration (repository : String)
  | versionToken (repository : String)
  | partitions (repository : String)
  | retrieve (repository : String) (ids : List String) (depth : Depth) (policy : UnknownPolicy)
  | retrieveAll (repository : String)
  | byClassifier (repository : String) (limit : Nat)
  | byLanguage (repository : String) (limit : Nat)
  | summaries (repository : String)
  | metrics (repository : String)
  | audit (repository : String)
  | snapshotFile (repository : String)
  | bulkRetrieve (repository : String) (ids : List String) (depth : Int)

/-- A request to a server. -/
inductive Operation where
  | ask (query : Query)
  | createRepository (configuration : Configuration)
  | ensureDefault
  | deleteRepository (repository : String)
  | createPartitions (repository : String) (batch : List Instance)
  | store (repository : String) (batch : List Instance)
  | deletePartitions (repository : String) (ids : List String)
  | allocate (repository : String) (count : Nat)
  | bulkCreate (repository : String) (chunk : Chunk)
  | bulkStore (repository : String) (chunk : Chunk)
  | bulkDelete (repository : String) (ids : List String)
  | bulkAllocate (repository : String) (count : Int)
  | importSnapshot (file : Binary.Bytes)
  | subscribe (observer : Observer)
  | unsubscribe (subscription : Nat)
  | watch (repository node : String) (observer : Observer)

/-- What a server answers when it does not refuse. -/
inductive Answer where
  | done
  | flag (value : Bool)
  | subscription (number : Nat)
  | token (text : String)
  | name (text : String)
  | ids (ids : List String)
  | configurations (list : List Configuration)
  | configuration (value : Configuration)
  | retrieved (result : Retrieved)
  | chunk (chunk : Chunk)
  | classifierGroups (groups : List (ClassifierKey × NodeGroup))
  | languageGroups (groups : List (String × NodeGroup))
  | summaries (list : List PartitionSummary)
  | metrics (metrics : Metrics)
  | issues (issues : List Issue)
  | audits (audits : List (String × List Issue))
  | file (bytes : Binary.Bytes)

/-- The server after an operation, its answer and what observers were told. -/
structure Outcome where
  server : Server
  answer : Except RepositoryError Answer
  notices : List Notice := []

namespace Server

/-- Answers a question about one repository. -/
def about (server : Server) (name : String) (answer : Repository → Answer)
    : Except RepositoryError Answer :=
  match server.repository name with
  | .error error => .error error
  | .ok repository => .ok (answer repository)

/-- Answers a question. -/
def answer (server : Server) : Query → Except RepositoryError Answer
  | .configurations => .ok (.configurations server.configurations)
  | .isPersistent => .ok (.flag server.isPersistent)
  | .audits => .ok (.audits server.audits)
  | .configuration name => server.about name fun repository =>
      .configuration repository.configuration
  | .versionToken name => server.about name fun repository => .token repository.versionToken
  | .partitions name => server.about name fun repository => .ids repository.partitions.toList
  | .retrieve name ids depth policy =>
      match server.repository name with
      | .error error => .error error
      | .ok repository => (repository.retrieve ids depth policy).map .retrieved
  | .retrieveAll name => server.about name fun repository => .chunk repository.retrieveAll
  | .byClassifier name limit => server.about name fun repository =>
      .classifierGroups (Inspection.byClassifier repository limit)
  | .byLanguage name limit => server.about name fun repository =>
      .languageGroups (Inspection.byLanguage repository limit)
  | .summaries name => server.about name fun repository =>
      .summaries (Inspection.summaries repository)
  | .metrics name => server.about name fun repository => .metrics (Inspection.metrics repository)
  | .audit name => server.about name fun repository => .issues (repository.audit server.catalog)
  | .snapshotFile name => server.about name fun repository => .file (SnapshotFile.save repository)
  | .bulkRetrieve name ids depth => (server.bulkRetrieve name ids depth).map .retrieved

/-- The outcome of an operation that changes the server and tells nobody. -/
def quietly (server : Server) (result : Except RepositoryError (Server × Answer)) : Outcome :=
  match result with
  | .error error => { server, answer := .error error }
  | .ok (server, answer) => { server, answer := .ok answer }

/-- The outcome of a write. -/
def loudly (server : Server) (result : Except RepositoryError Written) : Outcome :=
  match result with
  | .error error => { server, answer := .error error }
  | .ok written =>
      { server := written.server, answer := .ok (.token written.token)
        notices := written.notices }

/-- Carries out one operation. -/
def perform (server : Server) : Operation → Outcome
  | .ask query => { server, answer := server.answer query }
  | .createRepository configuration =>
      server.quietly ((server.createRepository configuration).map (·, .done))
  | .ensureDefault =>
      server.quietly (server.ensureDefault.map fun result => (result.1, .flag result.2))
  | .deleteRepository name => server.quietly ((server.deleteRepository name).map (·, .done))
  | .createPartitions name batch => server.loudly (server.createPartitions name batch)
  | .store name batch => server.loudly (server.store name batch)
  | .deletePartitions name ids => server.loudly (server.deletePartitions name ids)
  | .allocate name count =>
      server.quietly ((server.allocate name count).map fun result => (result.1, .ids result.2))
  | .bulkCreate name chunk => server.loudly (server.bulkCreate name chunk)
  | .bulkStore name chunk => server.loudly (server.bulkStore name chunk)
  | .bulkDelete name ids => server.loudly (server.bulkDelete name ids)
  | .bulkAllocate name count =>
      server.quietly ((server.bulkAllocate name count).map fun result =>
        (result.1, .ids result.2))
  | .importSnapshot file =>
      server.quietly ((server.importSnapshot file).map fun result => (result.1, .name result.2))
  | .subscribe observer =>
      let (observers, subscription) := server.observers.subscribe observer
      { server := { server with observers }, answer := .ok (.subscription subscription) }
  | .unsubscribe subscription =>
      let known := server.observers.subscribers.contains subscription
      { server := { server with observers := server.observers.unsubscribe subscription }
        answer := .ok (.flag known) }
  | .watch name node observer =>
      server.quietly ((server.watch name node observer).map (·, .done))

end Server

end ModelRepository
