import ModelRepository.Proofs.Repository.Consistency
import ModelRepository.Proofs.Server.Runs
import ModelRepository.Proofs.Storage.SnapshotFile
import ModelRepository.Proofs.Storage.Writes

/-! A server with a database behaves as one that keeps everything in memory, however often it is
closed and opened again in between.
Both servers take the same steps. `Server.Mirrors` relates them: they serve the same repositories,
and the tables of the one hold what it serves. Every operation keeps this up, whether it rewrites
all rows of a repository, only those that its changes name, or none but the record, and so does
opening the tables again.
-/

namespace ModelRepository

open Std

-----------------------------------------------------------------------------------------
-- Steps and views
-----------------------------------------------------------------------------------------

/-- An operation whose answer depends on the repositories alone, with instances that a machine can
hold. Observers are told apart by numbers that start anew when a server is opened.
-/
def Operation.Reproducible : Operation → Prop
  | .ask .isPersistent => False
  | .subscribe _ => False
  | .unsubscribe _ => False
  | .createPartitions _ batch => ∀ node ∈ batch, node.Fits
  | .store _ batch => ∀ node ∈ batch, node.Fits
  | .bulkCreate _ chunk => ∀ node ∈ chunk.instances, node.Fits
  | .bulkStore _ chunk => ∀ node ∈ chunk.instances, node.Fits
  | _ => True

/-- A step in the life of a server. -/
inductive Step where
  | call (operation : Operation)
  | reopen

/-- A step of which the answer depends on the repositories alone. -/
def Step.Reproducible : Step → Prop
  | .call operation => operation.Reproducible
  | .reopen => True

/-- What a server shows after a step: its answer, if the step was a call, and its repositories. -/
structure View where
  answer : Option (Except RepositoryError Answer)
  repositories : ExtTreeMap String Repository

namespace Server

/-- The server after it was closed and opened again. Without a database nothing is left. -/
def reopen (server : Server) : Except RepositoryError Server :=
  match server.storage with
  | .memory => .ok (inMemory server.catalog)
  | .database tables => ofTables server.catalog tables

/-- What a server shows step by step, unless it fails to open again. -/
def views (server : Server) : List Step → Except RepositoryError (List View)
  | [] => .ok []
  | .call operation :: rest =>
      let outcome := server.perform operation
      (outcome.server.views rest).map (⟨some outcome.answer, outcome.server.repositories⟩ :: ·)
  | .reopen :: rest =>
      match server.reopen with
      | .error error => .error error
      | .ok server => (server.views rest).map (⟨none, server.repositories⟩ :: ·)

/-- What a server shows step by step when it is never closed. -/
def viewsUnclosed (server : Server) : List Step → List View
  | [] => []
  | .call operation :: rest =>
      let outcome := server.perform operation
      ⟨some outcome.answer, outcome.server.repositories⟩ :: outcome.server.viewsUnclosed rest
  | .reopen :: rest => ⟨none, server.repositories⟩ :: server.viewsUnclosed rest

/-- A server with a database serves what the other one has in memory, and its tables hold that. -/
structure Mirrors (durable volatile : Server) : Prop where
  catalog : durable.catalog = volatile.catalog
  repositories : durable.repositories = volatile.repositories
  volatile : volatile.storage = .memory
  held : ∃ tables, durable.storage = .database tables ∧ tables.Holds durable.repositories
  served : Served durable.repositories

end Server

-----------------------------------------------------------------------------------------
-- Results of both servers
-----------------------------------------------------------------------------------------

/-- Two results that refuse for the same reason or succeed with related values. -/
inductive Alike {α β : Type} (related : α → β → Prop)
    : Except RepositoryError α → Except RepositoryError β → Prop
  | refused (reason : RepositoryError)
    : Alike related (.error reason) (.error reason)
  | done {left right} (same : related left right)
    : Alike related (.ok left) (.ok right)

theorem Alike.map {α β γ δ : Type} {related : α → β → Prop} {relatedToo : γ → δ → Prop}
    {left : Except RepositoryError α} {right : Except RepositoryError β} {f : α → γ} {g : β → δ}
    (alike : Alike related left right)
    (carries : ∀ a b, related a b → relatedToo (f a) (g b))
    : Alike relatedToo (left.map f) (right.map g) := by
  cases alike with
  | refused reason => exact .refused reason
  | done same => exact .done (carries _ _ same)

/-- Mirrored servers with one value. -/
def MirroredWith {α : Type} (left right : Server × α) : Prop :=
  left.1.Mirrors right.1 ∧ left.2 = right.2

/-- Mirrored servers with one token; observers may be told different things. -/
def Server.Written.Mirrors (left right : Server.Written) : Prop :=
  left.server.Mirrors right.server ∧ left.token = right.token

/-- Mirrored servers with one answer; observers may be told different things. -/
def Outcome.Mirrors (left right : Outcome) : Prop :=
  left.answer = right.answer ∧ left.server.Mirrors right.server

namespace Server

/-- A configuration that is admitted has a valid name, which is short. -/
theorem fits_of_admissionError? {server : Server} {configuration : Configuration}
    (admitted : server.admissionError? configuration = none)
    : configuration.Fits := by
  obtain ⟨valid, -, -⟩ := (server.admissionError?_eq_none_iff configuration).mp admitted
  have short : configuration.name.utf8ByteSize ≤ maxNameBytes := by
    simp only [isValidName, Bool.and_eq_true] at valid
    exact of_decide_eq_true valid.1
  exact Nat.lt_of_le_of_lt short (by decide)

namespace Mirrors

variable {durable volatile : Server}

theorem quietly (mirrors : durable.Mirrors volatile)
    {left right : Except RepositoryError (Server × Answer)}
    (alike : Alike MirroredWith left right)
    : (durable.quietly left).Mirrors (volatile.quietly right) := by
  cases alike with
  | refused reason => exact ⟨rfl, mirrors⟩
  | done same => exact ⟨by rw [Server.quietly, Server.quietly, same.2], same.1⟩

theorem loudly (mirrors : durable.Mirrors volatile) {left right : Except RepositoryError Written}
    (alike : Alike Written.Mirrors left right)
    : (durable.loudly left).Mirrors (volatile.loudly right) := by
  cases alike with
  | refused reason => exact ⟨rfl, mirrors⟩
  | done same => exact ⟨by rw [Server.loudly, Server.loudly, same.2], same.1⟩

-----------------------------------------------------------------------------------------
-- Changes of one repository
-----------------------------------------------------------------------------------------

theorem repository_eq (mirrors : durable.Mirrors volatile) (name : String)
    : durable.repository name = volatile.repository name := by
  rw [Server.repository, Server.repository, mirrors.repositories]

theorem admissionError?_eq (mirrors : durable.Mirrors volatile) (configuration : Configuration)
    : durable.admissionError? configuration = volatile.admissionError? configuration := by
  rw [admissionError?, admissionError?, mirrors.repositories]

/-- Servers still mirror each other when both replace one repository, or drop it, and the tables
replace its rows.
-/
theorem replace (mirrors : durable.Mirrors volatile) {name : String} {content : Option Repository}
    {served : ExtTreeMap String Repository} {change : Tables → Tables}
    (observers others : Observers)
    (contentSound : ∀ repository ∈ content, repository.name = name ∧ repository.Storable)
    (lookup
      : ∀ owner, served[owner]? = if owner = name then content else durable.repositories[owner]?)
    (replaces
      : ∀ tables : Tables,
          tables.Holds durable.repositories → tables.Replaces (change tables) name content)
    : Mirrors
        { durable with
          repositories := served
          observers
          storage := durable.storage.update change }
        { volatile with
          repositories := served
          observers := others
          storage := volatile.storage.update change } := by
  obtain ⟨tables, stored, held⟩ := mirrors.held
  refine ⟨mirrors.catalog, rfl, ?_, ⟨change tables, ?_, ?_⟩, ?_⟩
  · simp [mirrors.volatile, Storage.update]
  · simp [stored, Storage.update]
  · exact held.replace (replaces tables held) lookup
  · exact mirrors.served.replace contentSound lookup

theorem add (mirrors : durable.Mirrors volatile) {repository : Repository}
    (storable : repository.Storable)
    : (durable.add repository).Mirrors (volatile.add repository) := by
  rw [Server.add, Server.add, ← mirrors.repositories]
  refine mirrors.replace durable.observers volatile.observers ?_ ?_ fun tables _ =>
    tables.save_replaces repository
  · rintro _ ⟨⟩
    exact ⟨rfl, storable⟩
  · exact fun owner => getElem?_insert_eq_ite durable.repositories repository.name owner repository

theorem createRepository (mirrors : durable.Mirrors volatile) (configuration : Configuration)
    : Alike Mirrors (durable.createRepository configuration)
        (volatile.createRepository configuration) := by
  unfold Server.createRepository
  rw [← mirrors.admissionError?_eq configuration]
  split
  · exact .refused _
  · rename_i admitted
    exact .done (mirrors.add (Repository.create_storable (fits_of_admissionError? admitted)))

theorem ensureDefault (mirrors : durable.Mirrors volatile)
    : Alike MirroredWith durable.ensureDefault volatile.ensureDefault := by
  unfold Server.ensureDefault
  rw [← mirrors.repositories]
  split
  · have created := mirrors.createRepository { name := defaultRepository }
    generalize durable.createRepository { name := defaultRepository } = left at created
    generalize volatile.createRepository { name := defaultRepository } = right at created
    cases created with
    | refused reason => exact .refused reason
    | done same => exact .done ⟨same, rfl⟩
  · exact .done ⟨mirrors, rfl⟩

theorem deleteRepository (mirrors : durable.Mirrors volatile) (name : String)
    : Alike Mirrors (durable.deleteRepository name) (volatile.deleteRepository name) := by
  unfold Server.deleteRepository
  rw [← mirrors.repositories]
  split
  · refine .done (mirrors.replace _ _ (by simp) ?_ fun tables _ =>
      tables.delete_replaces name)
    exact getElem?_erase_eq_ite durable.repositories name
  · exact .refused _

theorem importSnapshot (mirrors : durable.Mirrors volatile) (file : Binary.Bytes)
    : Alike MirroredWith (durable.importSnapshot file) (volatile.importSnapshot file) := by
  unfold Server.importSnapshot
  cases read : SnapshotFile.decode file with
  | error reason => exact .refused reason
  | ok snapshot =>
      dsimp only
      rw [← mirrors.admissionError?_eq]
      split
      · exact .refused _
      · have fits := SnapshotFile.fits_of_decode read
        exact .done ⟨mirrors.add (Repository.ofSnapshot_storable fits), rfl⟩

/-- A repository is replaced by one that a change set leads to. -/
theorem apply (mirrors : durable.Mirrors volatile) {name : String} {before after : Repository}
    {changes : Changes} (stored : durable.repositories[name]? = some before)
    (leads : changes.Leads before after) (storable : after.Storable) (named : after.name = name)
    (observers others : Observers)
    : Mirrors
        { durable with
          repositories := durable.repositories.insert name after
          observers
          storage := durable.storage.update (·.apply after changes) }
        { volatile with
          repositories := volatile.repositories.insert name after
          observers := others
          storage := volatile.storage.update (·.apply after changes) } := by
  subst named
  rw [← mirrors.repositories]
  refine mirrors.replace observers others ?_ ?_ fun tables held =>
    Tables.apply_replaces leads (held.holdContent stored)
  · rintro _ ⟨⟩
    exact ⟨rfl, storable⟩
  · exact fun owner => getElem?_insert_eq_ite durable.repositories after.name owner after

/-- A write whose change sets lead from each repository to the one after it. -/
theorem write (mirrors : durable.Mirrors volatile) (name : String)
    {change : Repository → Except RepositoryError (Repository × Changes)}
    (sound
      : ∀ before after changes,
          before.Storable
          → change before = .ok (after, changes)
          → changes.Leads before after ∧ after.Storable ∧ after.name = before.name)
    : Alike Written.Mirrors
        (durable.write name change) (volatile.write name change) := by
  unfold Server.write
  rw [← mirrors.repository_eq]
  cases found : durable.repository name with
  | error reason => exact .refused reason
  | ok before =>
      dsimp only
      cases done : change before with
      | error reason => exact .refused reason
      | ok written =>
          obtain ⟨after, changes⟩ := written
          have stored := found_of_repository found
          have storable := mirrors.served.storable name before stored
          obtain ⟨leads, afterStorable, same⟩ := sound before after changes storable done
          have named : after.name = name := same.trans (mirrors.served.named name before stored)
          exact .done ⟨mirrors.apply stored leads.bump afterStorable.bump named _ _, rfl⟩

theorem allocate (mirrors : durable.Mirrors volatile) (name : String) (count : Nat)
    : Alike MirroredWith (durable.allocate name count) (volatile.allocate name count) := by
  unfold Server.allocate
  rw [← mirrors.repository_eq]
  cases found : durable.repository name with
  | error reason => exact .refused reason
  | ok before =>
      dsimp only
      cases done : before.allocate count with
      | error reason => exact .refused reason
      | ok counted =>
          obtain ⟨after, ids⟩ := counted
          have stored := found_of_repository found
          have named := mirrors.served.named name before stored
          have storable := (mirrors.served.storable name before stored).allocate done
          obtain ⟨leads, same⟩ := Repository.leads_of_allocate done
          exact .done ⟨mirrors.apply stored leads storable (same.trans named) _ _, rfl⟩

-----------------------------------------------------------------------------------------
-- Operations
-----------------------------------------------------------------------------------------

/-- Every write on a repository, whose batch fits. -/
theorem request (mirrors : durable.Mirrors volatile) (name : String) (request : Request)
    (fits : ∀ node ∈ request.batch, node.Fits)
    : Alike Written.Mirrors
        (durable.write name (·.perform request)) (volatile.write name (·.perform request)) := by
  refine mirrors.write name fun before after changes storable done => ?_
  obtain ⟨-, effect⟩ := Repository.commits_of_perform done
  exact ⟨Repository.leads_of_perform done, storable.perform fits done,
    congrArg Configuration.name effect.configuration⟩

theorem observers (mirrors : durable.Mirrors volatile) (observers others : Observers)
    : Mirrors { durable with observers } { volatile with observers := others } :=
  ⟨mirrors.catalog, mirrors.repositories, mirrors.volatile, mirrors.held, mirrors.served⟩

theorem watch (mirrors : durable.Mirrors volatile) (name node : String) (observer : Observer)
    : Alike Mirrors (durable.watch name node observer) (volatile.watch name node observer) := by
  unfold Server.watch
  rw [← mirrors.repository_eq]
  cases durable.repository name with
  | error reason => exact .refused reason
  | ok repository =>
      dsimp only
      split
      · exact .done (mirrors.observers _ _)
      · exact .refused _

theorem chunkError?_eq (mirrors : durable.Mirrors volatile) (name : String) (chunk : Chunk)
    : durable.chunkError? name chunk = volatile.chunkError? name chunk := by
  rw [chunkError?, chunkError?, mirrors.repository_eq]

/-- A chunk goes to a repository once it is checked. -/
theorem bulkRequest (mirrors : durable.Mirrors volatile) (name : String) (chunk : Chunk)
    (request : Request) (fits : ∀ node ∈ request.batch, node.Fits)
    : Alike Written.Mirrors
        (match durable.chunkError? name chunk with
          | some error => .error error
          | none => durable.write name (·.perform request))
        (match volatile.chunkError? name chunk with
          | some error => .error error
          | none => volatile.write name (·.perform request)) := by
  rw [← mirrors.chunkError?_eq]
  split
  · exact .refused _
  · exact mirrors.request name request fits

theorem bulkDelete (mirrors : durable.Mirrors volatile) (name : String) (ids : List String)
    : Alike Written.Mirrors
        (durable.bulkDelete name ids) (volatile.bulkDelete name ids) := by
  unfold Server.bulkDelete
  split
  · exact .refused _
  · exact mirrors.request name (.deletePartitions ids) nofun

theorem bulkAllocate (mirrors : durable.Mirrors volatile) (name : String) (count : Int)
    : Alike MirroredWith (durable.bulkAllocate name count) (volatile.bulkAllocate name count) := by
  unfold Server.bulkAllocate
  split
  · exact .refused _
  · exact mirrors.allocate name _

theorem answer_eq (mirrors : durable.Mirrors volatile) {query : Query}
    (reproducible : query ≠ .isPersistent)
    : durable.answer query = volatile.answer query := by
  cases query with
  | isPersistent => exact (reproducible rfl).elim
  | configurations => simp only [answer, configurations, mirrors.repositories]
  | audits => simp only [answer, audits, mirrors.repositories, mirrors.catalog]
  | _ => simp only [answer, about, bulkRetrieve, mirrors.repository_eq, mirrors.catalog]

/-- Mirrored servers answer every reproducible operation alike and mirror each other afterwards, by
cases on the operation.
-/
theorem perform (mirrors : durable.Mirrors volatile) {operation : Operation}
    (reproducible : operation.Reproducible)
    : (durable.perform operation).Mirrors (volatile.perform operation) := by
  cases operation with
  | ask query =>
      refine ⟨mirrors.answer_eq ?_, mirrors⟩
      rintro rfl
      exact reproducible
  | createRepository configuration =>
      exact mirrors.quietly
        ((mirrors.createRepository configuration).map fun _ _ same => ⟨same, rfl⟩)
  | ensureDefault =>
      exact mirrors.quietly (mirrors.ensureDefault.map fun _ _ same => ⟨same.1, by rw [same.2]⟩)
  | deleteRepository name =>
      exact mirrors.quietly ((mirrors.deleteRepository name).map fun _ _ same => ⟨same, rfl⟩)
  | createPartitions name batch =>
      exact mirrors.loudly (mirrors.request name (.createPartitions batch) reproducible)
  | store name batch =>
      exact mirrors.loudly (mirrors.request name (.store batch) reproducible)
  | deletePartitions name ids =>
      exact mirrors.loudly (mirrors.request name (.deletePartitions ids) nofun)
  | allocate name count =>
      exact mirrors.quietly ((mirrors.allocate name count).map
        fun _ _ same => ⟨same.1, by rw [same.2]⟩)
  | bulkCreate name chunk =>
      exact mirrors.loudly
        (mirrors.bulkRequest name chunk (.createPartitions chunk.instances) reproducible)
  | bulkStore name chunk =>
      exact mirrors.loudly (mirrors.bulkRequest name chunk (.store chunk.instances) reproducible)
  | bulkDelete name ids => exact mirrors.loudly (mirrors.bulkDelete name ids)
  | bulkAllocate name count =>
      exact mirrors.quietly ((mirrors.bulkAllocate name count).map
        fun _ _ same => ⟨same.1, by rw [same.2]⟩)
  | importSnapshot file =>
      exact mirrors.quietly ((mirrors.importSnapshot file).map
        fun _ _ same => ⟨same.1, by rw [same.2]⟩)
  | subscribe observer => exact reproducible.elim
  | unsubscribe subscription => exact reproducible.elim
  | watch name node observer =>
      exact mirrors.quietly ((mirrors.watch name node observer).map fun _ _ same => ⟨same, rfl⟩)

-----------------------------------------------------------------------------------------
-- Whole lives
-----------------------------------------------------------------------------------------

/-- The database opens again, and what it serves then is mirrored as before. -/
theorem reopen (mirrors : durable.Mirrors volatile)
    : ∃ reopened, durable.reopen = .ok reopened ∧ reopened.Mirrors volatile := by
  obtain ⟨tables, stored, held⟩ := mirrors.held
  have opened := ofTables_eq durable.catalog held mirrors.served
  refine ⟨_, by rw [Server.reopen, stored]; exact opened, ?_⟩
  exact ⟨mirrors.catalog, mirrors.repositories, mirrors.volatile, ⟨tables, rfl, held⟩,
    mirrors.served⟩

/-- Mirrored servers show the same, whether or not the one with the database is closed and opened
again, by induction on the steps.
-/
theorem views_eq (mirrors : durable.Mirrors volatile) (steps : List Step)
    (reproducible : ∀ step ∈ steps, step.Reproducible)
    : durable.views steps = .ok (volatile.viewsUnclosed steps) := by
  induction steps generalizing durable volatile with
  | nil => rfl
  | cons step rest ih =>
      obtain ⟨first, later⟩ := List.forall_mem_cons.mp reproducible
      cases step with
      | call operation =>
          obtain ⟨same, next⟩ := mirrors.perform first
          rw [views, viewsUnclosed, ih next later, same, next.repositories]
          rfl
      | reopen =>
          obtain ⟨reopened, opened, next⟩ := mirrors.reopen
          simp only [views, viewsUnclosed, opened, ih next later, next.repositories]
          rfl

end Mirrors

/-- A server that opens on an empty database never fails to open again, and shows after every step
the answer and the repositories that a server shows which has only its memory and takes the same
steps without being closed: for every catalog and all sequences of reproducible operations,
accepted or refused, with the database closed and opened again anywhere in between.
-/
theorem reopening_is_invisible (catalog : Catalog) (steps : List Step)
    (reproducible : ∀ step ∈ steps, step.Reproducible)
    : ∃ server,
        ofTables catalog {} = .ok server
        ∧ server.views steps = .ok ((inMemory catalog).viewsUnclosed steps) := by
  have served : Served ∅ := ⟨by simp, by simp⟩
  have mirrors : Mirrors
      { catalog, repositories := ∅, storage := .database {} } (inMemory catalog) :=
    ⟨rfl, rfl, rfl, ⟨{}, rfl, Tables.holds_empty⟩, served⟩
  exact ⟨_, ofTables_eq catalog Tables.holds_empty served, mirrors.views_eq steps reproducible⟩

-- A life with two repositories of which one name begins with the other.

/-- Fills a repository, moves a node, deletes another repository and then the partition, and asks
for the snapshot in the end; twice in between the database is closed and opened again.
-/
def session : List Step :=
  [ .call .ensureDefault,
    .call (.createRepository { name := "tidy" }),
    .call (.createRepository { name := "tidy-too" }),
    .call (.createPartitions "tidy" Repository.tidyInstances),
    .call (.createPartitions "tidy-too" Repository.tidyInstances),
    .reopen,
    .call (.store "tidy" Repository.moving),
    .call (.bulkAllocate "tidy" 2),
    .call (.deleteRepository "tidy"),
    .reopen,
    .call (.deletePartitions "tidy-too" ["root"]),
    .call (.importSnapshot []),
    .call (.ask (.snapshotFile "tidy-too")) ]

/-- That session shows the same as it would without being interrupted. -/
theorem session_reopens
    : (∀ step ∈ session, step.Reproducible)
      ∧ ∃ server,
          ofTables .standard {} = .ok server
          ∧ server.views session = .ok ((inMemory .standard).viewsUnclosed session) := by
  have tidy : ∀ node ∈ Repository.tidyInstances, node.Fits := by decide
  have moving : ∀ node ∈ Repository.moving, node.Fits := by decide
  have reproducible : ∀ step ∈ session, step.Reproducible := by
    simpa [session, Step.Reproducible, Operation.Reproducible] using ⟨tidy, moving⟩
  exact ⟨reproducible, reopening_is_invisible .standard session reproducible⟩

end Server

end ModelRepository
