import ModelRepository.Proofs.Repository.Commit
import ModelRepository.Server.Operation

/-! What an operation can do to a server, and what holds however many operations it has carried
out.
`Server.Moves` lists the ways in which a server changes, each with the checks that lead to it, so
that a property of servers need not be followed through the operations themselves. Most properties
are about single repositories. `Kept` says what has to be shown of one of these, and then it holds
of everything that is served after any run.
-/

namespace ModelRepository

open Std

namespace Server

/-- The server after one operation upon the other, accepted or refused. -/
def run (server : Server) (operations : List Operation) : Server :=
  operations.foldl (fun server operation => (server.perform operation).server) server

-----------------------------------------------------------------------------------------
-- Checks
-----------------------------------------------------------------------------------------

theorem found_of_repository {server : Server} {name : String} {repository : Repository}
    (found : server.repository name = .ok repository)
    : server.repositories[name]? = some repository := by
  unfold Server.repository at found
  split at found
  · cases found
    assumption
  · cases found

theorem repository_of_found {server : Server} {name : String} {repository : Repository}
    (found : server.repositories[name]? = some repository)
    : server.repository name = .ok repository := by
  rw [Server.repository, found]

/-- A repository is admitted under a valid name that is free, as long as it asks for no history. -/
theorem admissionError?_eq_none_iff (server : Server) (configuration : Configuration)
    : server.admissionError? configuration = none
      ↔ isValidName configuration.name = true
        ∧ configuration.history = .disabled
        ∧ configuration.name ∉ server.repositories := by
  have disabled : configuration.history = .disabled ↔ configuration.history ≠ .enabled := by
    cases configuration.history <;> decide
  unfold admissionError?
  rw [disabled]
  split
  · simp_all
  · split
    · simp_all
    · split <;> simp_all

-----------------------------------------------------------------------------------------
-- Accepted operations
-----------------------------------------------------------------------------------------

section Accepted

variable {server after : Server} {name : String}

theorem createRepository_eq_ok {configuration : Configuration}
    (done : server.createRepository configuration = .ok after)
    : server.admissionError? configuration = none ∧ after = server.add (.create configuration) := by
  unfold createRepository at done
  split at done
  · cases done
  · rename_i admitted
    cases done
    exact ⟨admitted, rfl⟩

theorem ensureDefault_eq_ok {result : Server × Bool} (done : server.ensureDefault = .ok result)
    : result.1 = server ∨ server.createRepository { name := defaultRepository } = .ok result.1 := by
  unfold ensureDefault at done
  split at done
  · split at done
    · cases done
    · rename_i created
      cases done
      exact Or.inr created
  · cases done
    exact Or.inl rfl

theorem deleteRepository_eq_ok (done : server.deleteRepository name = .ok after)
    : name ∈ server.repositories
      ∧ after =
          { server with
            repositories := server.repositories.erase name
            observers := server.observers.forget name
            storage := server.storage.update (·.delete name) } := by
  unfold deleteRepository at done
  split at done
  · rename_i known
    cases done
    exact ⟨ExtTreeMap.contains_iff_mem.mp known, rfl⟩
  · cases done

theorem write_eq_ok {change : Repository → Except RepositoryError (Repository × Changes)}
    {written : Written} (done : server.write name change = .ok written)
    : ∃ repository after changes,
        server.repositories[name]? = some repository
        ∧ change repository = .ok (after, changes)
        ∧ written =
            { server :=
                { server with
                  repositories := server.repositories.insert name after.bump
                  observers := server.observers.after name changes
                  storage := server.storage.update (·.apply after.bump changes) }
              token := after.bump.versionToken
              notices := server.observers.notices name changes } := by
  unfold write at done
  split at done
  · cases done
  · rename_i found
    split at done
    · cases done
    · rename_i accepted
      cases done
      exact ⟨_, _, _, found_of_repository found, accepted, rfl⟩

theorem allocate_eq_ok {count : Nat} {result : Server × List String}
    (done : server.allocate name count = .ok result)
    : ∃ repository after,
        server.repositories[name]? = some repository
        ∧ repository.allocate count = .ok (after, result.2)
        ∧ result.1 =
            { server with
              repositories := server.repositories.insert name after
              storage := server.storage.update (·.apply after {}) } := by
  unfold allocate at done
  split at done
  · cases done
  · rename_i found
    split at done
    · cases done
    · rename_i counted
      cases done
      exact ⟨_, _, found_of_repository found, counted, rfl⟩

theorem bulkAllocate_eq_ok {count : Int} {result : Server × List String}
    (done : server.bulkAllocate name count = .ok result)
    : ∃ number, server.allocate name number = .ok result := by
  unfold bulkAllocate at done
  split at done
  · cases done
  · exact ⟨_, done⟩

theorem importSnapshot_eq_ok {file : Binary.Bytes} {result : Server × String}
    (done : server.importSnapshot file = .ok result)
    : ∃ snapshot,
        SnapshotFile.decode file = .ok snapshot
        ∧ server.admissionError? snapshot.configuration = none
        ∧ result = (server.add (.ofSnapshot snapshot), snapshot.configuration.name) := by
  unfold importSnapshot at done
  split at done
  · cases done
  · rename_i read
    split at done
    · cases done
    · rename_i admitted
      cases done
      exact ⟨_, read, admitted, rfl⟩

theorem watch_eq_ok {node : String} {observer : Observer}
    (done : server.watch name node observer = .ok after)
    : ∃ repository,
        server.repositories[name]? = some repository
        ∧ node ∈ repository.nodes
        ∧ after = { server with observers := server.observers.watch ⟨name, node⟩ observer } := by
  unfold watch at done
  split at done
  · cases done
  · rename_i found
    split at done
    · rename_i indexed
      cases done
      exact ⟨_, found_of_repository found, ExtTreeMap.contains_iff_mem.mp indexed, rfl⟩
    · cases done

/-- A repository is added beside those that are served, under a name that none of them has. -/
theorem getElem?_add {repository new : Repository}
    (served : server.repositories[name]? = some repository) (free : new.name ∉ server.repositories)
    : (server.add new).repositories[name]? = some repository := by
  have differs : new.name ≠ name := fun same =>
    free (ExtTreeMap.mem_iff_isSome_getElem?.mpr (by simp [same, served]))
  simpa [add, ExtTreeMap.getElem?_insert, differs] using served

end Accepted

end Server

-----------------------------------------------------------------------------------------
-- Writes
-----------------------------------------------------------------------------------------

/-- The repository that an operation writes to and the write that it asks for there, behind the
checks that it may make first.
-/
def Operation.request? : Operation → Option (String × Request)
  | .createPartitions name batch => some (name, .createPartitions batch)
  | .store name batch => some (name, .store batch)
  | .deletePartitions name ids => some (name, .deletePartitions ids)
  | .bulkCreate name chunk => some (name, .createPartitions chunk.instances)
  | .bulkStore name chunk => some (name, .store chunk.instances)
  | .bulkDelete name ids => some (name, .deletePartitions ids)
  | _ => none

/-- The repository that an operation writes to. -/
def Operation.target? (operation : Operation) : Option String :=
  operation.request?.map Prod.fst

namespace Server

/-- A write is attempted: it is refused and leaves the server as it is, or it is carried out. -/
def Attempts (server : Server) (name : String) (request : Request) (outcome : Outcome) : Prop :=
  (∃ error, outcome = { server, answer := .error error })
  ∨ ∃ written,
      server.write name (·.perform request) = .ok written
      ∧ outcome =
          { server := written.server, answer := .ok (.token written.token)
            notices := written.notices }

/-- A write may be refused by a check, by cases on the check and then on the write. -/
theorem attempts_checked (server : Server) (name : String) (request : Request)
    (error? : Option RepositoryError)
    : server.Attempts name request
        (server.loudly (match error? with
          | some error => .error error
          | none => server.write name (·.perform request))) := by
  cases error? with
  | some error => exact Or.inl ⟨error, rfl⟩
  | none =>
      dsimp only
      cases done : server.write name (·.perform request) with
      | error error => exact Or.inl ⟨error, rfl⟩
      | ok written => exact Or.inr ⟨written, done, rfl⟩

/-- Whatever asks for a write attempts it, by cases on the operation. -/
theorem perform_attempts (server : Server) {operation : Operation} {name : String}
    {request : Request} (asked : operation.request? = some (name, request))
    : server.Attempts name request (server.perform operation) := by
  cases operation <;> cases asked
  case createPartitions batch =>
    exact server.attempts_checked name (.createPartitions batch) none
  case store batch => exact server.attempts_checked name (.store batch) none
  case deletePartitions ids => exact server.attempts_checked name (.deletePartitions ids) none
  case bulkCreate chunk =>
    exact server.attempts_checked name (.createPartitions chunk.instances)
      (server.chunkError? name chunk)
  case bulkStore chunk =>
    exact server.attempts_checked name (.store chunk.instances) (server.chunkError? name chunk)
  case bulkDelete ids =>
    exact server.attempts_checked name (.deletePartitions ids) (idListError? ids)

-----------------------------------------------------------------------------------------
-- Moves
-----------------------------------------------------------------------------------------

/-- What an operation does to a server and tells its observers. Refusals and questions do
nothing.
-/
inductive Moves (before : Server) : Server → List Notice → Prop
  | stays : before.Moves before []
  | creates {configuration} (admitted : before.admissionError? configuration = none)
    : before.Moves (before.add (.create configuration)) []
  | imports {file snapshot} (read : SnapshotFile.decode file = .ok snapshot)
    (admitted : before.admissionError? snapshot.configuration = none)
    : before.Moves (before.add (.ofSnapshot snapshot)) []
  | deletes {name} (known : name ∈ before.repositories)
    : before.Moves
        { before with
          repositories := before.repositories.erase name
          observers := before.observers.forget name
          storage := before.storage.update (·.delete name) }
        []
  | writes {name repository after changes} (request : Request)
    (found : before.repositories[name]? = some repository)
    (done : repository.perform request = .ok (after, changes))
    : before.Moves
        { before with
          repositories := before.repositories.insert name after.bump
          observers := before.observers.after name changes
          storage := before.storage.update (·.apply after.bump changes) }
        (before.observers.notices name changes)
  | allocates {name repository after count ids}
    (found : before.repositories[name]? = some repository)
    (done : repository.allocate count = .ok (after, ids))
    : before.Moves
        { before with
          repositories := before.repositories.insert name after
          storage := before.storage.update (·.apply after {}) }
        []
  | subscribes (observer : Observer)
    : before.Moves { before with observers := (before.observers.subscribe observer).1 } []
  | unsubscribes (subscription : Nat)
    : before.Moves { before with observers := before.observers.unsubscribe subscription } []
  | watches {name repository node} (observer : Observer)
    (found : before.repositories[name]? = some repository) (indexed : node ∈ repository.nodes)
    : before.Moves
        { before with observers := before.observers.watch ⟨name, node⟩ observer } []

/-- An outcome is a move of the server that it started from. -/
def MovesTo (before : Server) (outcome : Outcome) : Prop :=
  before.Moves outcome.server outcome.notices

theorem movesTo_quietly {server : Server} {α : Type} {result : Except RepositoryError α}
    {conclude : α → Server × Answer}
    (moves : ∀ value, result = .ok value → server.Moves (conclude value).1 [])
    : server.MovesTo (server.quietly (result.map conclude)) := by
  cases result with
  | error reason => exact .stays
  | ok value => exact moves value rfl

variable {server after : Server} {name : String}

theorem moves_of_createRepository {configuration : Configuration}
    (done : server.createRepository configuration = .ok after)
    : server.Moves after [] := by
  obtain ⟨admitted, rfl⟩ := createRepository_eq_ok done
  exact .creates admitted

theorem moves_of_ensureDefault {result : Server × Bool} (done : server.ensureDefault = .ok result)
    : server.Moves result.1 [] := by
  rcases ensureDefault_eq_ok done with same | created
  · rw [same]
    exact .stays
  · exact moves_of_createRepository created

theorem moves_of_deleteRepository (done : server.deleteRepository name = .ok after)
    : server.Moves after [] := by
  obtain ⟨known, rfl⟩ := deleteRepository_eq_ok done
  exact .deletes known

theorem moves_of_allocate {count : Nat} {result : Server × List String}
    (done : server.allocate name count = .ok result)
    : server.Moves result.1 [] := by
  obtain ⟨_, _, found, counted, same⟩ := allocate_eq_ok done
  rw [same]
  exact .allocates found counted

theorem moves_of_importSnapshot {file : Binary.Bytes} {result : Server × String}
    (done : server.importSnapshot file = .ok result)
    : server.Moves result.1 [] := by
  obtain ⟨_, read, admitted, same⟩ := importSnapshot_eq_ok done
  rw [same]
  exact .imports read admitted

theorem moves_of_watch {node : String} {observer : Observer}
    (done : server.watch name node observer = .ok after)
    : server.Moves after [] := by
  obtain ⟨_, found, indexed, rfl⟩ := watch_eq_ok done
  exact .watches observer found indexed

theorem movesTo_of_request {operation : Operation} {request : Request}
    (asked : operation.request? = some (name, request))
    : server.MovesTo (server.perform operation) := by
  unfold MovesTo
  rcases server.perform_attempts asked with ⟨error, same⟩ | ⟨written, done, same⟩
  · rw [same]
    exact .stays
  · obtain ⟨_, _, _, found, accepted, rfl⟩ := write_eq_ok done
    rw [same]
    exact .writes request found accepted

/-- Every operation is a move, by cases on the operation. -/
theorem perform_movesTo (server : Server) (operation : Operation)
    : server.MovesTo (server.perform operation) := by
  cases operation with
  | ask query => exact .stays
  | createRepository configuration =>
      exact movesTo_quietly fun _ => moves_of_createRepository
  | ensureDefault => exact movesTo_quietly fun _ => moves_of_ensureDefault
  | deleteRepository name => exact movesTo_quietly fun _ => moves_of_deleteRepository
  | createPartitions | store | deletePartitions | bulkCreate | bulkStore | bulkDelete =>
      exact movesTo_of_request rfl
  | allocate name count => exact movesTo_quietly fun _ => moves_of_allocate
  | bulkAllocate name count =>
      refine movesTo_quietly fun result done => ?_
      obtain ⟨_, done⟩ := bulkAllocate_eq_ok done
      exact moves_of_allocate done
  | importSnapshot file => exact movesTo_quietly fun _ => moves_of_importSnapshot
  | subscribe observer => exact .subscribes observer
  | unsubscribe subscription => exact .unsubscribes subscription
  | watch name node observer => exact movesTo_quietly fun _ => moves_of_watch

-----------------------------------------------------------------------------------------
-- Runs
-----------------------------------------------------------------------------------------

/-- What every move preserves holds after every run, by induction on its operations. -/
theorem run_preserves {holds : Server → Prop}
    (moves : ∀ before after notices, holds before → before.Moves after notices → holds after)
    (start : holds server) (operations : List Operation)
    : holds (server.run operations) := by
  induction operations generalizing server with
  | nil => exact start
  | cons operation rest ih => exact ih (moves _ _ _ start (server.perform_movesTo operation))

/-- A property of repositories under their names that new and imported ones have and that writes
and allocations preserve.
-/
structure Kept (holds : String → Repository → Prop) : Prop where
  created
    : ∀ configuration,
        isValidName configuration.name = true
        → configuration.history = .disabled
        → holds configuration.name (.create configuration)
  imported
    : ∀ file snapshot,
        SnapshotFile.decode file = .ok snapshot
        → isValidName snapshot.configuration.name = true
        → snapshot.configuration.history = .disabled
        → holds snapshot.configuration.name (.ofSnapshot snapshot)
  written
    : ∀ name before request after changes,
        holds name before
        → before.perform request = .ok (after, changes)
        → holds name after.bump
  allocated
    : ∀ name before count after ids,
        holds name before
        → before.allocate count = .ok (after, ids)
        → holds name after

/-- The repositories of a server have a property. -/
def Serves (server : Server) (holds : String → Repository → Prop) : Prop :=
  ∀ (name : String) (repository : Repository),
    server.repositories[name]? = some repository → holds name repository

theorem serves_of_insert {holds : String → Repository → Prop} {repository : Repository}
    (serves : server.Serves holds) (new : holds name repository)
    (lookup : after.repositories = server.repositories.insert name repository)
    : after.Serves holds := by
  intro owner served found
  rw [lookup, ExtTreeMap.getElem?_insert] at found
  split at found
  · rename_i same
    cases found
    rwa [← Std.compare_eq_iff_eq.mp same]
  · exact serves owner served found

/-- A property that is kept survives every move, by cases on the move. -/
theorem Kept.moves {holds : String → Repository → Prop} {notices : List Notice}
    (kept : Kept holds) (serves : server.Serves holds) (moves : server.Moves after notices)
    : after.Serves holds := by
  cases moves with
  | stays | subscribes | unsubscribes | watches => exact serves
  | creates admitted =>
      obtain ⟨valid, disabled, -⟩ := (server.admissionError?_eq_none_iff _).mp admitted
      exact serves_of_insert serves (kept.created _ valid disabled) rfl
  | imports read admitted =>
      obtain ⟨valid, disabled, -⟩ := (server.admissionError?_eq_none_iff _).mp admitted
      exact serves_of_insert serves (kept.imported _ _ read valid disabled) rfl
  | deletes known =>
      intro owner served found
      rw [ExtTreeMap.getElem?_erase] at found
      split at found
      · cases found
      · exact serves owner served found
  | writes request found done =>
      exact serves_of_insert serves (kept.written _ _ _ _ _ (serves _ _ found) done) rfl
  | allocates found done =>
      exact serves_of_insert serves (kept.allocated _ _ _ _ _ (serves _ _ found) done) rfl

/-- Whatever a server serves that started without repositories has every property that is kept. -/
theorem Kept.run {holds : String → Repository → Prop} (kept : Kept holds) (catalog : Catalog)
    (storage : Storage) (operations : List Operation)
    : (Server.run { catalog, storage } operations).Serves holds := by
  have start : Server.Serves { catalog, storage } holds := by
    intro owner served found
    simp at found
  exact run_preserves (fun _ _ _ serves moves => kept.moves serves moves) start operations

end Server

end ModelRepository
