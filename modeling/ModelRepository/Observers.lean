import ModelRepository.NodeAddress
import ModelRepository.Update

/-! Observers of a server and what they are told about a write.
Subscribers hear of every repository. A watcher hears only that its node was deleted, and is
dropped with that news.
-/

namespace ModelRepository

/-- Something that wants to hear of writes; a silent observer ignores all news. -/
structure Observer where
  name : String
  silent : Bool := false
  deriving DecidableEq, Inhabited

/-- A piece of news about one repository. -/
inductive Event where
  | partitionAdded (repository partition : String)
  | nodeDeleted (repository node : String)
  | partitionRemoved (repository partition : String)
  deriving DecidableEq

/-- In which capacity an observer is told. -/
inductive Recipient where
  | subscriber (subscription : Nat)
  | watcher (address : NodeAddress)
  deriving DecidableEq

/-- One delivery of a piece of news. -/
structure Notice where
  recipient : Recipient
  observer : Observer
  event : Event
  deriving DecidableEq

/-- The observers of a server. -/
structure Observers where
  nextSubscription : Nat := 0
  subscribers : Std.ExtTreeMap Nat Observer := ∅
  /-- The observers that watch each node, in the order in which they came. -/
  watchers : Std.ExtTreeMap NodeAddress (List Observer) := ∅
  deriving DecidableEq, Inhabited

namespace Observers

/-- Adds a subscriber and tells its subscription. -/
def subscribe (observers : Observers) (observer : Observer) : Observers × Nat :=
  ({ observers with
      nextSubscription := observers.nextSubscription + 1
      subscribers := observers.subscribers.insert observers.nextSubscription observer },
    observers.nextSubscription)

/-- Ends a subscription. -/
def unsubscribe (observers : Observers) (subscription : Nat) : Observers :=
  { observers with subscribers := observers.subscribers.erase subscription }

/-- Adds a watcher of one node. -/
def watch (observers : Observers) (address : NodeAddress) (observer : Observer) : Observers :=
  { observers with
    watchers := observers.watchers.insert address
      (observers.watchers.getD address [] ++ [observer]) }

/-- Drops every watcher of a repository. -/
def forget (observers : Observers) (repository : String) : Observers :=
  { observers with
    watchers := observers.watchers.filter fun address _ => address.repository ≠ repository }

/-- The number of watchers. -/
def watcherCount (observers : Observers) : Nat :=
  observers.watchers.values.foldr (fun watching others => watching.length + others) 0

/-- The delivery to one observer, which a silent observer ignores. -/
def deliver (recipient : Recipient) (event : Event) (observer : Observer) : List Notice :=
  if observer.silent then [] else [⟨recipient, observer, event⟩]

/-- Tells every subscriber, in the order of their subscriptions. -/
def tellSubscribers (observers : Observers) (event : Event) : List Notice :=
  observers.subscribers.toList.flatMap fun entry =>
    deliver (.subscriber entry.1) event entry.2

/-- Tells the watchers of a node that it was deleted. -/
def tellWatchers (observers : Observers) (address : NodeAddress) : List Notice :=
  (observers.watchers.getD address []).flatMap
    (deliver (.watcher address) (.nodeDeleted address.repository address.id))

/-- Tells of a write: first the partitions that were added, then the nodes that were deleted,
each to the subscribers and then to its watchers, and last the partitions that were removed. -/
def notices (observers : Observers) (repository : String) (changes : Changes) : List Notice :=
  changes.partitionsAdded.toList.flatMap (fun partition =>
      observers.tellSubscribers (.partitionAdded repository partition))
    ++ changes.deleted.toList.flatMap (fun node =>
      observers.tellSubscribers (.nodeDeleted repository node)
        ++ observers.tellWatchers ⟨repository, node⟩)
    ++ changes.partitionsRemoved.toList.flatMap (fun partition =>
      observers.tellSubscribers (.partitionRemoved repository partition))

/-- The observers that are left after a write, without the watchers of deleted nodes. -/
def after (observers : Observers) (repository : String) (changes : Changes) : Observers :=
  { observers with
    watchers := observers.watchers.filter fun address _ =>
      !(address.repository = repository && changes.deleted.contains address.id) }

end Observers

end ModelRepository
