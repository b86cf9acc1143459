import Mathlib
import ModelRepository.Proofs.Server.Announcements

/-! Watching a node until it is deleted.
Watchers live beside the repositories, under the names of these, so whatever makes a node vanish has
to retire them: a write that sweeps it and the deletion of its repository. Then only indexed nodes
are watched, and a watch ends with the first operation that leaves its node without an index.
-/

namespace ModelRepository

open Std

-----------------------------------------------------------------------------------------
-- Watchers
-----------------------------------------------------------------------------------------

namespace Server

/-- Whether the repository of an address exists and holds its node. -/
def indexes (server : Server) (address : NodeAddress) : Bool :=
  server.repositories[address.repository]?.any (·.nodes.contains address.id)

/-- The watchers of a node, in the order in which they came. -/
def watching (server : Server) (address : NodeAddress) : List Observer :=
  server.observers.watchers.getD address []

/-- Only indexed nodes are watched. -/
def WatchesIndexed (server : Server) : Prop :=
  ∀ address ∈ server.observers.watchers, server.indexes address = true

theorem indexes_eq_true_iff (server : Server) (address : NodeAddress)
    : server.indexes address = true
      ↔ ∃ repository,
          server.repositories[address.repository]? = some repository
          ∧ address.id ∈ repository.nodes := by
  simp [indexes, Option.any_eq_true, ExtTreeMap.contains_iff_mem]

/-- The node of another repository is indexed as before, whatever becomes of this one. -/
theorem indexes_congr {server after : Server} {address : NodeAddress}
    (same : after.repositories[address.repository]? = server.repositories[address.repository]?)
    : after.indexes address = server.indexes address := by
  rw [indexes, indexes, same]

theorem WatchesIndexed.watching_eq_nil {server : Server} (indexed : server.WatchesIndexed)
    {address : NodeAddress} (absent : server.indexes address = false)
    : server.watching address = [] := by
  refine ExtTreeMap.getD_eq_fallback fun watched => ?_
  rw [indexed address watched] at absent
  cases absent

theorem WatchesIndexed.ite_watching {server : Server} (indexed : server.WatchesIndexed)
    (address : NodeAddress)
    : (if server.indexes address then server.watching address else [])
      = server.watching address := by
  split
  · rfl
  · rename_i absent
    exact (indexed.watching_eq_nil (Bool.eq_false_iff.mpr absent)).symm

-----------------------------------------------------------------------------------------
-- Steps
-----------------------------------------------------------------------------------------

/-- What a step from a server does to the watchers: those of nodes that are indexed afterwards stay,
others are dropped, and `joining` come behind them.
-/
structure WatchStep (before after : Server) (joining : NodeAddress → List Observer) : Prop where
  indexed : after.WatchesIndexed
  watching
    : ∀ address,
        after.watching address
        = (if after.indexes address then before.watching address else []) ++ joining address

/-- A step that adds no watchers and drops those whose node it leaves without an index. -/
structure Retires (before after : Server) : Prop where
  known : ∀ address ∈ after.observers.watchers, address ∈ before.observers.watchers
  kept
    : ∀ address,
        before.indexes address = true
        → after.observers.watchers[address]?
          = if after.indexes address then before.observers.watchers[address]? else none

variable {server after : Server} {name : String}

/-- Where only indexed nodes are watched, all others have no watchers to be dropped. -/
theorem Retires.watchStep (retires : server.Retires after) (indexed : server.WatchesIndexed)
    : server.WatchStep after fun _ => [] := by
  refine ⟨fun address watched => ?_, fun address => ?_⟩
  · have kept := retires.kept address (indexed address (retires.known address watched))
    by_cases here : after.indexes address = true
    · exact here
    · rw [if_neg here] at kept
      rw [ExtTreeMap.mem_iff_isSome_getElem?, kept] at watched
      cases watched
  · rw [List.append_nil]
    by_cases before : server.indexes address = true
    · simp only [watching, ExtTreeMap.getD_eq_getD_getElem?, retires.kept address before]
      split <;> rfl
    · have nobody := indexed.watching_eq_nil (Bool.eq_false_iff.mpr before)
      rw [nobody, ite_self]
      exact ExtTreeMap.getD_eq_fallback fun watched =>
        before (indexed address (retires.known address watched))

/-- A step that leaves watchers and indexed nodes in place. -/
structure Extends (before after : Server) : Prop where
  watchers : after.observers.watchers = before.observers.watchers
  indexes : ∀ address, before.indexes address = true → after.indexes address = true

theorem Extends.refl (server : Server) : server.Extends server :=
  ⟨rfl, fun _ indexed => indexed⟩

theorem Extends.retires (grows : server.Extends after) : server.Retires after := by
  refine ⟨fun address watched => grows.watchers ▸ watched, fun address indexed => ?_⟩
  rw [grows.watchers, if_pos (grows.indexes address indexed)]

theorem extends_add {repository : Repository} (free : repository.name ∉ server.repositories)
    : server.Extends (server.add repository) := by
  refine ⟨rfl, fun address indexed => ?_⟩
  rw [← indexed]
  refine indexes_congr ?_
  obtain ⟨served, found, -⟩ := (server.indexes_eq_true_iff address).mp indexed
  rw [found, getElem?_add found free]

theorem extends_of_createRepository {configuration : Configuration}
    (done : server.createRepository configuration = .ok after)
    : server.Extends after := by
  obtain ⟨admitted, rfl⟩ := createRepository_eq_ok done
  exact extends_add ((server.admissionError?_eq_none_iff configuration).mp admitted).2.2

theorem extends_of_ensureDefault {result : Server × Bool} (done : server.ensureDefault = .ok result)
    : server.Extends result.1 := by
  rcases ensureDefault_eq_ok done with same | created
  · rw [same]
    exact .refl server
  · exact extends_of_createRepository created

theorem extends_of_importSnapshot {file : Binary.Bytes} {result : Server × String}
    (done : server.importSnapshot file = .ok result)
    : server.Extends result.1 := by
  obtain ⟨snapshot, -, admitted, same⟩ := importSnapshot_eq_ok done
  rw [same]
  exact extends_add ((server.admissionError?_eq_none_iff snapshot.configuration).mp admitted).2.2

theorem extends_of_allocate {count : Nat} {result : Server × List String}
    (done : server.allocate name count = .ok result)
    : server.Extends result.1 := by
  obtain ⟨repository, after, found, counted, same⟩ := allocate_eq_ok done
  have nodes : after.nodes = repository.nodes := by
    unfold Repository.allocate at counted
    split at counted
    · cases counted
      rfl
    · cases counted
  rw [same]
  refine ⟨rfl, fun address indexed => ?_⟩
  obtain ⟨served, stored, member⟩ := (server.indexes_eq_true_iff address).mp indexed
  rw [indexes_eq_true_iff]
  by_cases here : name = address.repository
  · subst here
    cases found.symm.trans stored
    exact ⟨after, ExtTreeMap.getElem?_insert_self, nodes ▸ member⟩
  · exact ⟨served, by simpa [ExtTreeMap.getElem?_insert, here] using stored, member⟩

/-- Whoever watches a node is dropped exactly if the node goes. -/
theorem retires_of_filter (gone : NodeAddress → Bool)
    (dropped
      : after.observers.watchers = server.observers.watchers.filter fun address _ => !gone address)
    (lapses : ∀ address, server.indexes address = true → after.indexes address = !gone address)
    : server.Retires after := by
  refine ⟨fun address watched => ?_, fun address indexed => ?_⟩
  · rw [dropped] at watched
    exact (ExtTreeMap.mem_filter.mp watched).1
  · rw [dropped, ExtTreeMap.getElem?_filter', lapses address indexed]
    cases gone address <;> cases server.observers.watchers[address]? <;> rfl

/-- Deleting a repository drops its watchers, and no others. -/
theorem retires_of_deleteRepository (done : server.deleteRepository name = .ok after)
    : server.Retires after := by
  obtain ⟨-, rfl⟩ := deleteRepository_eq_ok done
  refine retires_of_filter (·.repository = name) (by simp [Observers.forget]) ?_
  intro address indexed
  by_cases here : name = address.repository
  · simp [indexes, here]
  · have stays : (server.repositories.erase name)[address.repository]?
        = server.repositories[address.repository]? := by
      simp [ExtTreeMap.getElem?_erase, here]
    rw [indexes_congr stays, indexed]
    simp [Ne.symm here]

/-- After a write an indexed node is indexed unless the write deleted it. -/
theorem indexes_of_write {before written : Repository} {request : Request} {changes : Changes}
    (found : server.repositories[name]? = some before)
    (performed : before.perform request = .ok (written, changes))
    (lookup : after.repositories = server.repositories.insert name written.bump)
    {address : NodeAddress} (indexed : server.indexes address = true)
    : after.indexes address
      = !(address.repository = name && changes.deleted.contains address.id) := by
  by_cases here : name = address.repository
  · subst here
    obtain ⟨served, stored, member⟩ := (server.indexes_eq_true_iff address).mp indexed
    cases found.symm.trans stored
    obtain ⟨-, effect⟩ := Repository.commits_of_perform performed
    have lapsed : written.nodes.contains address.id = !changes.deleted.contains address.id := by
      rw [Bool.eq_iff_iff, ExtTreeMap.contains_iff_mem, Bool.not_eq_true',
        IdSet.contains_eq_false_iff, effect.deleted]
      simp [member]
    simpa [indexes, lookup, Repository.bump] using lapsed
  · have stays : after.repositories[address.repository]?
        = server.repositories[address.repository]? := by
      simp [lookup, ExtTreeMap.getElem?_insert, here]
    rw [indexes_congr stays, indexed]
    simp [Ne.symm here]

/-- A write drops the watchers of the nodes that it deletes, and no others. -/
theorem retires_of_write {request : Request} {written : Written}
    (done : server.write name (·.perform request) = .ok written)
    : server.Retires written.server := by
  obtain ⟨before, after, changes, found, performed, rfl⟩ := write_eq_ok done
  exact retires_of_filter
    (fun address => address.repository = name && changes.deleted.contains address.id) rfl
    fun address indexed => indexes_of_write found performed rfl indexed

/-- A watch joins the watchers of its node. -/
theorem watchStep_of_watch (indexed : server.WatchesIndexed) {node : String} {observer : Observer}
    (done : server.watch name node observer = .ok after)
    : server.WatchStep after fun address => if address = ⟨name, node⟩ then [observer] else [] := by
  obtain ⟨repository, found, member, rfl⟩ := watch_eq_ok done
  have here : server.indexes ⟨name, node⟩ = true :=
    (server.indexes_eq_true_iff _).mpr ⟨repository, found, member⟩
  refine ⟨fun address watched => ?_, fun address => ?_⟩
  · rw [Observers.watch, ExtTreeMap.mem_insert, Std.compare_eq_iff_eq] at watched
    rcases watched with same | earlier
    · rw [← same]
      exact here
    · exact indexed address earlier
  · change (server.observers.watchers.insert ⟨name, node⟩
        (server.watching ⟨name, node⟩ ++ [observer])).getD address []
      = (if server.indexes address then server.watching address else []) ++ _
    rw [indexed.ite_watching, ExtTreeMap.getD_insert]
    by_cases same : address = ⟨name, node⟩
    · simp [same]
    · simp [same, Ne.symm same, watching]

-----------------------------------------------------------------------------------------
-- Operations
-----------------------------------------------------------------------------------------

/-- The observers that an operation adds to those of a node: the one of an accepted watch. -/
def joining (server : Server) (operation : Operation) (address : NodeAddress) : List Observer :=
  match operation, (server.perform operation).answer with
  | .watch name node observer, .ok _ => if address = ⟨name, node⟩ then [observer] else []
  | _, _ => []

theorem retires_quietly {α : Type} {result : Except RepositoryError α}
    {conclude : α → Server × Answer}
    (retires : ∀ value, result = .ok value → server.Retires (conclude value).1)
    : server.Retires (server.quietly (result.map conclude)).server := by
  cases result with
  | error error => exact (Extends.refl server).retires
  | ok value => exact retires value rfl

theorem retires_of_request {operation : Operation} {request : Request}
    (asked : operation.request? = some (name, request))
    : server.Retires (server.perform operation).server := by
  rcases server.perform_attempts asked with ⟨error, same⟩ | ⟨written, done, same⟩
  · rw [same]
    exact (Extends.refl server).retires
  · rw [same]
    exact retires_of_write done

/-- Every operation keeps the watchers of exactly the nodes that are indexed after it, by cases on
the operation.
-/
theorem perform_watchStep (indexed : server.WatchesIndexed) (operation : Operation)
    : server.WatchStep (server.perform operation).server (server.joining operation) := by
  cases operation with
  | ask query => exact (Extends.refl server).retires.watchStep indexed
  | createRepository configuration =>
      exact (retires_quietly fun _ done => (extends_of_createRepository done).retires).watchStep
        indexed
  | ensureDefault =>
      exact (retires_quietly fun _ done => (extends_of_ensureDefault done).retires).watchStep
        indexed
  | deleteRepository name =>
      exact (retires_quietly fun _ => retires_of_deleteRepository).watchStep indexed
  | createPartitions | store | deletePartitions | bulkCreate | bulkStore | bulkDelete =>
      exact (retires_of_request rfl).watchStep indexed
  | allocate name count =>
      exact (retires_quietly fun _ done => (extends_of_allocate done).retires).watchStep indexed
  | bulkAllocate name count =>
      refine (retires_quietly fun _ done => ?_).watchStep indexed
      obtain ⟨_, done⟩ := bulkAllocate_eq_ok done
      exact (extends_of_allocate done).retires
  | importSnapshot file =>
      exact (retires_quietly fun _ done => (extends_of_importSnapshot done).retires).watchStep
        indexed
  | subscribe observer =>
      have grows : server.Extends (server.perform (.subscribe observer)).server :=
        ⟨rfl, fun _ still => still⟩
      exact grows.retires.watchStep indexed
  | unsubscribe subscription =>
      have grows : server.Extends (server.perform (.unsubscribe subscription)).server :=
        ⟨rfl, fun _ still => still⟩
      exact grows.retires.watchStep indexed
  | watch name node observer =>
      unfold joining
      simp only [perform]
      cases done : server.watch name node observer with
      | error error => exact (Extends.refl server).retires.watchStep indexed
      | ok after => exact watchStep_of_watch indexed done

/-- Who watches a node hears of an operation if it is a write that leaves the node without an
index, and of nothing else.
-/
theorem heardBy_watcher (indexed : server.WatchesIndexed) (operation : Operation)
    (address : NodeAddress)
    : (server.perform operation).heardBy (.watcher address)
      = if operation.target? = some address.repository
            ∧ (server.perform operation).server.indexes address = false then
          server.observers.tellWatchers address
        else [] := by
  -- Nobody is told of a node that was not indexed before, as nobody watched it.
  have nobody (absent : server.indexes address = false)
      : server.observers.tellWatchers address = [] := by
    change (server.watching address).flatMap _ = []
    rw [indexed.watching_eq_nil absent, List.flatMap_nil]
  unfold Outcome.heardBy
  cases asked : operation.request? with
  | none =>
      rw [server.notices_of_no_request asked, if_neg (by simp [Operation.target?, asked])]
      rfl
  | some target =>
      obtain ⟨name, request⟩ := target
      have named : operation.target? = some name := by simp [Operation.target?, asked]
      rw [named]
      rcases server.perform_attempts asked with ⟨error, same⟩ | ⟨written, done, same⟩
      · rw [same]
        split
        · rename_i absent
          exact (nobody absent.2).symm
        · rfl
      · obtain ⟨before, after, changes, found, performed, rfl⟩ := write_eq_ok done
        rw [same]
        refine (Observers.filter_notices_watcher server.observers name changes address).trans ?_
        cases earlier : server.indexes address with
        | false => rw [nobody earlier, ite_self, ite_self]
        | true =>
            rw [indexes_of_write found performed rfl earlier]
            simp +contextual [@eq_comm _ name]

-----------------------------------------------------------------------------------------
-- Runs
-----------------------------------------------------------------------------------------

/-- Whether a node is indexed after each of the operations. -/
def keeps (server : Server) (address : NodeAddress) : List Operation → Bool
  | [] => true
  | operation :: rest =>
      let after := (server.perform operation).server
      after.indexes address && after.keeps address rest

/-- The observers that wait for the deletion of a node after a run that nobody watched it before:
those of the accepted watches after which it has been indexed ever since.
-/
def awaiting (server : Server) (address : NodeAddress) : List Operation → List Observer
  | [] => []
  | operation :: rest =>
      let after := (server.perform operation).server
      (if after.keeps address rest then server.joining operation address else [])
        ++ after.awaiting address rest

theorem run_append (server : Server) (earlier later : List Operation)
    : server.run (earlier ++ later) = (server.run earlier).run later :=
  List.foldl_append

/-- A node is kept by two runs in a row if each one keeps it, by induction on the first one. -/
theorem keeps_append (server : Server) (address : NodeAddress) (earlier later : List Operation)
    : server.keeps address (earlier ++ later)
      = (server.keeps address earlier && (server.run earlier).keeps address later) := by
  induction earlier generalizing server with
  | nil => rfl
  | cons operation rest ih =>
      simp only [List.cons_append, keeps, ih, Bool.and_assoc]
      rfl

/-- Whoever waits after the first one of two runs goes on waiting if the second one keeps the node.
By induction on the first one.
-/
theorem awaiting_append (server : Server) (address : NodeAddress) (earlier later : List Operation)
    : server.awaiting address (earlier ++ later)
      = (if (server.run earlier).keeps address later then server.awaiting address earlier else [])
        ++ (server.run earlier).awaiting address later := by
  induction earlier generalizing server with
  | nil =>
      rw [awaiting, ite_self]
      rfl
  | cons operation rest ih =>
      have step : server.run (operation :: rest) = (server.perform operation).server.run rest := rfl
      simp only [List.cons_append, awaiting, ih, keeps_append, step]
      cases ((server.perform operation).server.run rest).keeps address later <;> simp

/-- The watchers after a run are those from before it, if their node has been kept, and those who
wait since. By induction on the operations.
-/
theorem watching_run (indexed : server.WatchesIndexed) (operations : List Operation)
    : (server.run operations).WatchesIndexed
      ∧ ∀ address,
          (server.run operations).watching address
          = (if server.keeps address operations then server.watching address else [])
            ++ server.awaiting address operations := by
  induction operations generalizing server with
  | nil => exact ⟨indexed, fun address => by simp [keeps, awaiting, run]⟩
  | cons operation rest ih =>
      have step := server.perform_watchStep indexed operation
      obtain ⟨stillIndexed, watching⟩ := ih step.indexed
      refine ⟨stillIndexed, fun address => (watching address).trans ?_⟩
      rw [step.watching, keeps, awaiting]
      cases (server.perform operation).server.keeps address rest <;> simp

/-- A watch is accepted only for an indexed node. -/
theorem indexes_of_accepted {address : NodeAddress} {observer : Observer} {answer : Answer}
    (accepted
      : (server.perform (.watch address.repository address.id observer)).answer = .ok answer)
    : (server.perform (.watch address.repository address.id observer)).server.indexes address
      = true := by
  simp only [perform] at accepted ⊢
  cases done : server.watch address.repository address.id observer with
  | error error =>
      rw [done] at accepted
      cases accepted
  | ok after =>
      obtain ⟨repository, found, member, rfl⟩ := watch_eq_ok done
      exact (indexes_eq_true_iff _ address).mpr ⟨repository, found, member⟩

/-- Only indexed nodes are watched, however many operations a server has carried out since nobody
watched anything. Who waits for the deletion of a node hears of it once, from the write that leaves
the node without an index, and of nothing else; a silent observer ignores even that. A watch counts
among those who wait, behind those from before it, for as long as its node is indexed after every
operation; from the first one on that leaves it without an index, be it a write or the deletion of
the repository, only later watches do.
-/
theorem watcher_hears_deletion_once {start : Server} (unwatched : start.observers.watchers = ∅)
    (history : List Operation) (address : NodeAddress)
    : (∀ watched ∈ (start.run history).observers.watchers,
        (start.run history).indexes watched = true)
      ∧ (∀ operation,
          ((start.run history).perform operation).heardBy (.watcher address)
          = if operation.target? = some address.repository
                ∧ ((start.run history).perform operation).server.indexes address = false then
              ((start.awaiting address history).filter (!·.silent)).map fun observer =>
                ⟨.watcher address, observer, .nodeDeleted address.repository address.id⟩
            else [])
      ∧ ∀ earlier observer later answer,
          history = earlier ++ .watch address.repository address.id observer :: later
          → ((start.run earlier).perform
                (.watch address.repository address.id observer)).answer = .ok answer
          → start.awaiting address history
            = (if (start.run
                    (earlier ++ [.watch address.repository address.id observer])).keeps address
                    later then
                start.awaiting address earlier ++ [observer]
              else [])
              ++ (start.run
                    (earlier ++ [.watch address.repository address.id observer])).awaiting address
                    later := by
  have nobody : start.WatchesIndexed := fun address watched => by simp [unwatched] at watched
  obtain ⟨indexed, watching⟩ := watching_run nobody history
  have waiting : (start.run history).watching address = start.awaiting address history := by
    rw [watching address]
    simp [Server.watching, unwatched]
  refine ⟨indexed, fun operation => ?_, ?_⟩
  · rw [heardBy_watcher indexed operation address, ← waiting, ← Observers.flatMap_deliver]
    rfl
  · intro earlier observer later answer split accepted
    have here := indexes_of_accepted accepted
    have joins : (start.run earlier).joining (.watch address.repository address.id observer) address
        = [observer] := by
      unfold joining
      rw [accepted]
      exact if_pos rfl
    have step : start.run (earlier ++ [.watch address.repository address.id observer])
        = ((start.run earlier).perform
            (.watch address.repository address.id observer)).server := by
      rw [run_append]
      rfl
    rw [split, awaiting_append, keeps, here, awaiting, joins, Bool.true_and, step]
    split <;> simp

/-- A server with one repository, in which a partition owns a node. -/
def tended : Server :=
  { repositories := (∅ : ExtTreeMap String Repository).insert "r"
      (.ofParts { name := "r" } (IdSet.ofIds ["p"])
        (Index.ofInstances [.withChildren "p" none ["a"], .withChildren "a" (some "p") []]) 0 1) }

/-- The node is watched, stored again, and watched by another observer. -/
def vigil : List Operation :=
  [ .watch "r" "a" { name := "x" },
    .store "r" [.withChildren "a" (some "p") []],
    .watch "r" "a" { name := "y" } ]

/-- Both observers wait, and both hear of the deletion from a write that only submits the owner. -/
theorem vigil_ends
    : tended.observers.watchers = ∅
      ∧ (tended.perform (.watch "r" "a" { name := "x" })).answer = .ok .done
      ∧ tended.awaiting ⟨"r", "a"⟩ vigil = [{ name := "x" }, { name := "y" }]
      ∧ ((tended.run vigil).perform (.store "r" [.withChildren "p" none []])).heardBy
            (.watcher ⟨"r", "a"⟩)
          = [ ⟨.watcher ⟨"r", "a"⟩, { name := "x" }, .nodeDeleted "r" "a"⟩,
              ⟨.watcher ⟨"r", "a"⟩, { name := "y" }, .nodeDeleted "r" "a"⟩ ] := by
  have unwatched : tended.observers.watchers = ∅ := rfl
  have accepted : (tended.perform (.watch "r" "a" { name := "x" })).answer = .ok .done := rfl
  obtain ⟨-, heard, waits⟩ := watcher_hears_deletion_once unwatched vigil ⟨"r", "a"⟩
  have waiting : tended.awaiting ⟨"r", "a"⟩ vigil = [{ name := "x" }, { name := "y" }] := by
    rw [waits [] { name := "x" } (vigil.drop 1) .done rfl accepted]
    cbv
  refine ⟨unwatched, accepted, waiting, ?_⟩
  rw [heard, waiting]
  cbv

end Server

end ModelRepository
