import Mathlib
import ModelRepository.Proofs.Repository.Difference
import ModelRepository.Proofs.Server.Refusal
import ModelRepository.Proofs.Server.Runs

/-! What the subscribers of a server hear of an operation.
The notices of a write are put together from its record of changes, subscriber by subscriber. What
reaches one of them is the difference between the repository before the write and after it.
-/

namespace ModelRepository

open Std

-----------------------------------------------------------------------------------------
-- Deliveries
-----------------------------------------------------------------------------------------

/-- What a recipient is told by an operation, in order. -/
def Outcome.heardBy (outcome : Outcome) (recipient : Recipient) : List Notice :=
  outcome.notices.filter (·.recipient = recipient)

/-- The identifier that a piece of news is about. -/
def Event.subject : Event → String
  | partitionAdded _ partition => partition
  | nodeDeleted _ node => node
  | partitionRemoved _ partition => partition

/-- The news of a change of the named repository. -/
def Changes.news (changes : Changes) (name : String) : List Event :=
  changes.partitionsAdded.toList.map (.partitionAdded name)
    ++ changes.deleted.toList.map (.nodeDeleted name)
    ++ changes.partitionsRemoved.toList.map (.partitionRemoved name)

/-- Where one element alone contributes to a list, the list is its contribution. By induction on the
elements.
-/
theorem flatMap_eq_of_alone {α β : Type} {items : List α} {item : α} {contribution : α → List β}
    (unique : items.Nodup) (member : item ∈ items)
    (alone : ∀ other ∈ items, other ≠ item → contribution other = [])
    : items.flatMap contribution = contribution item := by
  induction items with
  | nil => cases member
  | cons head tail ih =>
      obtain ⟨absent, uniqueTail⟩ := List.nodup_cons.mp unique
      have aloneTail := fun other inTail => alone other (List.mem_cons_of_mem _ inTail)
      rw [List.flatMap_cons]
      rcases List.mem_cons.mp member with rfl | later
      · have nothing : tail.flatMap contribution = [] :=
          List.flatMap_eq_nil_iff.mpr fun other inTail =>
            aloneTail other inTail fun same => absent (same ▸ inTail)
        rw [nothing, List.append_nil]
      · have differs : head ≠ item := fun same => absent (same ▸ later)
        rw [alone head List.mem_cons_self differs, List.nil_append, ih uniqueTail later aloneTail]

namespace Observers

variable {observers : Observers}

/-- An observer is told each piece of news once, in order, and a silent one is told nothing. -/
theorem flatMap_deliver_events (recipient : Recipient) (events : List Event) (observer : Observer)
    : events.flatMap (deliver recipient · observer)
      = if observer.silent then [] else events.map fun event => ⟨recipient, observer, event⟩ := by
  cases quiet : observer.silent with
  | false => simp [deliver, quiet, ← List.map_eq_flatMap]
  | true => simp [deliver, quiet]

/-- A piece of news is told to each observer once, in order, except to the silent ones. By induction
on the observers.
-/
theorem flatMap_deliver (recipient : Recipient) (event : Event) (observers : List Observer)
    : observers.flatMap (deliver recipient event)
      = (observers.filter (!·.silent)).map fun observer => ⟨recipient, observer, event⟩ := by
  induction observers with
  | nil => rfl
  | cons observer observers ih =>
      rw [List.flatMap_cons, ih]
      cases quiet : observer.silent <;> simp [deliver, quiet]

/-- Different news makes different notices. -/
theorem map_notice_inj {recipient : Recipient} {observer : Observer} {events others : List Event}
    : events.map (fun event => (⟨recipient, observer, event⟩ : Notice))
        = others.map (fun event => ⟨recipient, observer, event⟩)
      ↔ events = others :=
  List.map_inj_right fun _ _ same => (Notice.mk.inj same).2.2

theorem filter_deliver (recipient other : Recipient) (event : Event) (observer : Observer)
    : (deliver recipient event observer).filter (·.recipient = other)
      = if recipient = other then deliver recipient event observer else [] := by
  unfold deliver
  split <;> split <;> simp_all

/-- Of what is told to all subscribers, each one hears what is delivered to it. -/
theorem filter_tellSubscribers_subscriber {subscription : Nat} {observer : Observer}
    (present : observers.subscribers[subscription]? = some observer) (event : Event)
    : (observers.tellSubscribers event).filter (·.recipient = .subscriber subscription)
      = deliver (.subscriber subscription) event observer := by
  have unique : observers.subscribers.toList.Nodup :=
    ExtTreeMap.distinct_keys_toList.imp fun apart same => apart (by simp [same])
  have member : (subscription, observer) ∈ observers.subscribers.toList :=
    ExtTreeMap.mem_toList_iff_getElem?_eq_some.mpr present
  unfold tellSubscribers
  rw [List.filter_flatMap, flatMap_eq_of_alone unique member, filter_deliver, if_pos rfl]
  rintro ⟨other, observing⟩ inList differs
  rw [filter_deliver, if_neg]
  rintro same
  cases same
  have again := ExtTreeMap.mem_toList_iff_getElem?_eq_some.mp inList
  exact differs (by rw [Option.some.inj (present.symm.trans again)])

theorem filter_tellWatchers_subscriber (observers : Observers) (address : NodeAddress)
    (subscription : Nat)
    : (observers.tellWatchers address).filter (·.recipient = .subscriber subscription) = [] := by
  unfold tellWatchers
  rw [List.filter_flatMap, List.flatMap_eq_nil_iff]
  intro observer _
  rw [filter_deliver, if_neg (by simp)]

/-- A subscriber hears the news of a change, piece by piece. -/
theorem filter_notices_subscriber {subscription : Nat} {observer : Observer}
    (present : observers.subscribers[subscription]? = some observer) (name : String)
    (changes : Changes)
    : (observers.notices name changes).filter (·.recipient = .subscriber subscription)
      = if observer.silent then []
        else (changes.news name).map fun event => ⟨.subscriber subscription, observer, event⟩ := by
  rw [← flatMap_deliver_events]
  simp only [notices, Changes.news, List.filter_append, List.filter_flatMap, List.flatMap_append,
    List.flatMap_map, filter_tellSubscribers_subscriber present, filter_tellWatchers_subscriber,
    List.append_nil]

theorem filter_tellSubscribers_watcher (observers : Observers) (event : Event)
    (address : NodeAddress)
    : (observers.tellSubscribers event).filter (·.recipient = .watcher address) = [] := by
  unfold tellSubscribers
  rw [List.filter_flatMap, List.flatMap_eq_nil_iff]
  intro entry _
  rw [filter_deliver, if_neg (by simp)]

theorem filter_tellWatchers_watcher (observers : Observers) (address other : NodeAddress)
    : (observers.tellWatchers other).filter (·.recipient = .watcher address)
      = if other = address then observers.tellWatchers address else [] := by
  unfold tellWatchers
  rw [List.filter_flatMap]
  split
  · rename_i same
    subst same
    simp only [filter_deliver, if_true]
  · rename_i differs
    simp [filter_deliver, differs]

/-- A watcher hears of a change if it deletes the watched node, and of nothing else. -/
theorem filter_notices_watcher (observers : Observers) (name : String) (changes : Changes)
    (address : NodeAddress)
    : (observers.notices name changes).filter (·.recipient = .watcher address)
      = if name = address.repository ∧ address.id ∈ changes.deleted then
          observers.tellWatchers address
        else [] := by
  have nobody (partitions : List String) : partitions.flatMap (fun _ => ([] : List Notice)) = [] :=
    List.flatMap_eq_nil_iff.mpr fun _ _ => rfl
  simp only [notices, List.filter_append, List.filter_flatMap, filter_tellSubscribers_watcher,
    filter_tellWatchers_watcher, nobody, List.nil_append, List.append_nil]
  split
  · rename_i told
    obtain ⟨rfl, deleted⟩ := told
    have unique : changes.deleted.toList.Nodup :=
      ExtTreeSet.ordered_toList.imp fun before same => by simp [same] at before
    rw [flatMap_eq_of_alone unique (ExtTreeSet.mem_toList.mpr deleted), if_pos rfl]
    intro node _ differs
    exact if_neg fun same => differs (congrArg NodeAddress.id same)
  · rename_i untold
    refine List.flatMap_eq_nil_iff.mpr fun node listed => if_neg fun same => untold ?_
    rw [← same]
    exact ⟨rfl, ExtTreeSet.mem_toList.mp listed⟩

end Observers

-----------------------------------------------------------------------------------------
-- Differences
-----------------------------------------------------------------------------------------

/-- `ids` lists what satisfies `holds`, each once, in ascending order. -/
def ListsAscending (ids : List String) (holds : String → Prop) : Prop :=
  ids.Pairwise (· < ·) ∧ ∀ id, id ∈ ids ↔ holds id

theorem listsAscending_toList {set : IdSet} {holds : String → Prop}
    (members : ∀ id, id ∈ set ↔ holds id)
    : ListsAscending set.toList holds := by
  refine ⟨ExtTreeSet.ordered_toList.imp fun {a b} before => ?_, fun id => ?_⟩
  · exact compareOfLessAndEq_eq_lt.mp before
  · rw [ExtTreeSet.mem_toList, members]

/-- `events` tell how the named repository became `after` from `before`: first the new partitions,
then the nodes that are gone, and then the partitions that are gone.
-/
def TellsDifference (name : String) (before after : Repository) (events : List Event) : Prop :=
  ∃ added deleted removed,
    ListsAscending added (fun id => id ∈ after.partitions ∧ id ∉ before.partitions)
    ∧ ListsAscending deleted (fun id => id ∈ before.nodes ∧ id ∉ after.nodes)
    ∧ ListsAscending removed (fun id => id ∈ before.partitions ∧ id ∉ after.partitions)
    ∧ events =
        added.map (.partitionAdded name)
          ++ deleted.map (.nodeDeleted name)
          ++ removed.map (.partitionRemoved name)

namespace TellsDifference

variable {name : String} {before after : Repository} {events : List Event}

/-- A node that the repository holds before and after is not told to be deleted. -/
theorem nodeDeleted_not_mem (tells : TellsDifference name before after events) {id : String}
    (kept : id ∈ after.nodes)
    : .nodeDeleted name id ∉ events := by
  obtain ⟨added, deleted, removed, -, ⟨-, gone⟩, -, rfl⟩ := tells
  simp only [List.mem_append, List.mem_map, reduceCtorEq, Event.nodeDeleted.injEq, true_and,
    and_false, exists_false, false_or, or_false, exists_eq_right]
  exact fun told => ((gone id).mp told).2 kept

/-- News is about a partition that is new or gone, or about a node that is gone. -/
theorem subject_cases (tells : TellsDifference name before after events) {event : Event}
    (told : event ∈ events)
    : (event.subject ∈ after.partitions ∧ event.subject ∉ before.partitions)
      ∨ (event.subject ∈ before.nodes ∧ event.subject ∉ after.nodes)
      ∨ (event.subject ∈ before.partitions ∧ event.subject ∉ after.partitions) := by
  obtain ⟨added, deleted, removed, ⟨-, new⟩, ⟨-, gone⟩, ⟨-, dropped⟩, rfl⟩ := tells
  simp only [List.mem_append, List.mem_map] at told
  rcases told with (⟨id, listed, rfl⟩ | ⟨id, listed, rfl⟩) | ⟨id, listed, rfl⟩
  · exact Or.inl ((new id).mp listed)
  · exact Or.inr (Or.inl ((gone id).mp listed))
  · exact Or.inr (Or.inr ((dropped id).mp listed))

end TellsDifference

namespace Repository

variable {before after : Repository} {request : Request} {changes : Changes}

/-- The news of an accepted write tells the difference that it made. -/
theorem news_tellsDifference (done : before.perform request = .ok (after, changes)) (name : String)
    : TellsDifference name before after (changes.news name) := by
  obtain ⟨accepted, effect⟩ := commits_of_perform done
  obtain ⟨added, removed⟩ := registration_of_perform done
  refine ⟨_, _, _, listsAscending_toList fun id => ?_, listsAscending_toList effect.deleted,
    listsAscending_toList fun id => ?_, rfl⟩
  · rw [added, effect.registry]
    exact request.mem_registration_added_iff before id
  · rw [removed, effect.registry]
    exact Request.mem_registration_removed_iff accepted id

/-- What a write submits, creates and sweeps is not news. -/
theorem transient_not_subject (done : before.perform request = .ok (after, changes))
    {node : Instance} (submitted : node ∈ request.batch) (fresh : node.id ∉ before.nodes)
    (swept : node.id ∉ after.nodes) {name : String} {event : Event}
    (told : event ∈ changes.news name)
    : event.subject ≠ node.id := by
  intro same
  obtain ⟨-, effect⟩ := commits_of_perform done
  rcases (news_tellsDifference done name).subject_cases told with
    ⟨registered, new⟩ | ⟨earlier, -⟩ | ⟨earlier, dropped⟩
  · exact swept (effect.mem_nodes_of_registered (same ▸ registered) (same ▸ new))
  · exact fresh (same ▸ earlier)
  · refine dropped ?_
    rw [effect.registry]
    exact Request.registered_of_mem_batch submitted earlier

end Repository

-----------------------------------------------------------------------------------------
-- Operations
-----------------------------------------------------------------------------------------

namespace Server

/-- What asks for no write tells nobody, by cases on the operation. -/
theorem notices_of_no_request (server : Server) {operation : Operation}
    (nothing : operation.request? = none)
    : (server.perform operation).notices = [] := by
  have quiet (result : Except RepositoryError (Server × Answer))
      : (server.quietly result).notices = [] := by
    cases result <;> rfl
  cases operation with
  | createPartitions | store | deletePartitions | bulkCreate | bulkStore | bulkDelete =>
      cases nothing
  | createRepository | ensureDefault | deleteRepository | allocate | bulkAllocate
  | importSnapshot | watch => exact quiet _
  | ask | subscribe | unsubscribe => rfl

/-- A subscriber hears of every write that is carried out how the repository that it names became
another one: the partitions that are new, the nodes that are gone and the partitions that are gone,
each in ascending order and each in one notice, unless the subscriber is silent and ignores them
all. A node that is kept is not told to be deleted, and one that the write created and swept again
is not told of at all. Of anything else a subscriber hears nothing.
-/
theorem subscriber_hears_difference (server : Server) (operation : Operation) {subscription : Nat}
    {observer : Observer}
    (present : server.observers.subscribers[subscription]? = some observer)
    : (∀ name request answer,
        operation.request? = some (name, request)
        → (server.perform operation).answer = .ok answer
        → ∃ before after events,
            server.repositories[name]? = some before
            ∧ (server.perform operation).server.repositories[name]? = some after
            ∧ TellsDifference name before after events
            ∧ (server.perform operation).heardBy (.subscriber subscription)
              = (if observer.silent then []
                else events.map fun event => ⟨.subscriber subscription, observer, event⟩)
            ∧ (∀ id ∈ before.nodes, id ∈ after.nodes → .nodeDeleted name id ∉ events)
            ∧ ∀ node ∈ request.batch,
                node.id ∉ before.nodes
                → node.id ∉ after.nodes
                → ∀ event ∈ events, event.subject ≠ node.id)
      ∧ (operation.request? = none ∨ (∃ error, (server.perform operation).answer = .error error)
          → (server.perform operation).heardBy (.subscriber subscription) = []) := by
  constructor
  · intro name request answer asked answered
    rcases server.perform_attempts asked with ⟨error, refused⟩ | ⟨written, done, carried⟩
    · rw [refused] at answered
      cases answered
    · obtain ⟨before, after, changes, found, performed, rfl⟩ := write_eq_ok done
      rw [carried]
      have tells := Repository.news_tellsDifference performed name
      exact ⟨before, after.bump, changes.news name, found, ExtTreeMap.getElem?_insert_self, tells,
        Observers.filter_notices_subscriber present name changes,
        fun id _ kept => tells.nodeDeleted_not_mem kept,
        fun node submitted fresh swept event =>
          Repository.transient_not_subject performed submitted fresh swept⟩
  · intro silence
    have nothing : (server.perform operation).notices = [] := by
      rcases silence with unasked | ⟨error, refused⟩
      · exact server.notices_of_no_request unasked
      · rw [perform_of_refused refused]
    rw [Outcome.heardBy, nothing, List.filter_nil]

/-- A server with one repository, in which a partition owns two nodes, a subscriber, and another one
that ignores what it is told.
-/
def listening : Server :=
  { repositories := (∅ : ExtTreeMap String Repository).insert "r"
      (.ofParts { name := "r" } (IdSet.ofIds ["p"])
        (Index.ofInstances [
          .withChildren "p" none ["a", "b"],
          .withChildren "a" (some "p") [],
          .withChildren "b" (some "p") []])
        0 1)
    observers :=
      ((({} : Observers).subscribe { name := "log" }).1.subscribe
        { name := "idle", silent := true }).1 }

/-- Beside a new partition the old one is submitted, with one of its nodes left. -/
def replanting : Operation :=
  .createPartitions "r" [.withChildren "q" none [], .withChildren "p" none ["b"]]

/-- The old partition is deleted with all that it owns. -/
def felling : Operation :=
  .deletePartitions "r" ["p"]

/-- The subscriber hears how each of the two operations changes the repository, notice by notice,
and nothing of a deletion that is refused. The silent subscriber hears nothing at all.
-/
theorem replanting_and_felling_announced
    : listening.observers.subscribers[0]? = some { name := "log" }
      ∧ listening.observers.subscribers[1]? = some { name := "idle", silent := true }
      ∧ (listening.perform replanting).answer = .ok (.token "v-1")
      ∧ (∃ before after,
          listening.repositories["r"]? = some before
          ∧ (listening.perform replanting).server.repositories["r"]? = some after
          ∧ TellsDifference "r" before after [.partitionAdded "r" "q", .nodeDeleted "r" "a"])
      ∧ (listening.perform replanting).heardBy (.subscriber 0)
        = [ ⟨.subscriber 0, { name := "log" }, .partitionAdded "r" "q"⟩,
            ⟨.subscriber 0, { name := "log" }, .nodeDeleted "r" "a"⟩ ]
      ∧ (listening.perform replanting).heardBy (.subscriber 1) = []
      ∧ (listening.perform felling).heardBy (.subscriber 0)
        = [ ⟨.subscriber 0, { name := "log" }, .nodeDeleted "r" "a"⟩,
            ⟨.subscriber 0, { name := "log" }, .nodeDeleted "r" "b"⟩,
            ⟨.subscriber 0, { name := "log" }, .nodeDeleted "r" "p"⟩,
            ⟨.subscriber 0, { name := "log" }, .partitionRemoved "r" "p"⟩ ]
      ∧ (listening.perform (.deletePartitions "r" ["a"])).answer = .error (.partitionNotFound "a")
      ∧ (listening.perform (.deletePartitions "r" ["a"])).heardBy (.subscriber 0) = [] := by
  have present : listening.observers.subscribers[0]? = some { name := "log" } := by decide
  have silent : listening.observers.subscribers[1]? = some { name := "idle", silent := true } := by
    decide
  have answered : (listening.perform replanting).answer = .ok (.token "v-1") := rfl
  have refused : (listening.perform (.deletePartitions "r" ["a"])).answer
      = .error (.partitionNotFound "a") := rfl
  have told : (listening.perform replanting).heardBy (.subscriber 0)
      = [.partitionAdded "r" "q", .nodeDeleted "r" "a"].map
          fun event => ⟨.subscriber 0, { name := "log" }, event⟩ := by
    cbv
  obtain ⟨before, after, events, found, left, tells, heard, -, -⟩ :=
    (listening.subscriber_hears_difference replanting present).1 "r" _ _ rfl answered
  have same : events = [.partitionAdded "r" "q", .nodeDeleted "r" "a"] :=
    Observers.map_notice_inj.mp (heard.symm.trans told)
  obtain ⟨_, _, _, -, -, -, unheard, -, -⟩ :=
    (listening.subscriber_hears_difference replanting silent).1 "r" _ _ rfl answered
  refine ⟨present, silent, answered, ⟨before, after, found, left, same ▸ tells⟩, told, unheard, ?_,
    refused, (listening.subscriber_hears_difference _ present).2 (Or.inr ⟨_, refused⟩)⟩
  cbv

end Server

end ModelRepository
