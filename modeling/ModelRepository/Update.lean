import ModelRepository.Reachability

/-! How an accepted batch changes an index, and the record of what changed.
A submitted node that moves leaves the lists of its former owner, every submitted instance
replaces the stored one, and then everything out of reach of the partitions is swept away.
-/

namespace ModelRepository

/-- What a write did to a repository. -/
structure Changes where
  /-- Identifiers whose stored instance was added or replaced. -/
  upserted : IdSet := ∅
  /-- Identifiers that were indexed before the write and no longer are. -/
  deleted : IdSet := ∅
  partitionsAdded : IdSet := ∅
  partitionsRemoved : IdSet := ∅
  /-- Identifiers that the index did not hold before the write. -/
  created : IdSet := ∅
  deriving DecidableEq, Inhabited

/-- A write without public effect; identifiers that were created and swept do not show. -/
def Changes.isEmpty (changes : Changes) : Bool :=
  changes.upserted.isEmpty && changes.deleted.isEmpty && changes.partitionsAdded.isEmpty
    && changes.partitionsRemoved.isEmpty

namespace Index

/-- The identifiers that `partitions` no longer reach. -/
def unreachable (index : Index) (partitions : IdSet) : IdSet :=
  let kept := reachable index partitions
  IdSet.ofIds (index.keys.filter fun id => !kept.contains id)

/-- Drops the instances with the given identifiers. -/
def without (index : Index) (ids : IdSet) : Index :=
  index.filter fun id _ => !ids.contains id

end Index

/-- A write in progress: the index as it now stands and the changes so far. -/
structure Update where
  nodes : Index
  changes : Changes := {}

namespace Update

/-- Strikes a moving node from the lists of its former owner, unless the owner is itself
submitted and therefore about to be replaced. -/
def detach (submitted : IdSet) (update : Update) (node : Instance) : Update :=
  match update.nodes.parentOf? node.id with
  | none => update
  | some owner =>
      if submitted.contains owner || node.parent = some owner then update
      else
        match update.nodes[owner]? with
        | none => update
        | some holder =>
            if holder.lists node.id then
              { nodes := update.nodes.insert owner (holder.disown node.id)
                changes := { update.changes with
                  upserted := update.changes.upserted.insert owner } }
            else update

/-- Stores one instance in place of any earlier one. -/
def put (update : Update) (node : Instance) : Update :=
  { nodes := update.nodes.insert node.id node
    changes := { update.changes with
      upserted := update.changes.upserted.insert node.id
      created :=
        if update.nodes.contains node.id then update.changes.created
        else update.changes.created.insert node.id } }

/-- Applies an accepted batch: moving nodes leave their former owners, and then every instance
is stored. -/
def apply (update : Update) (batch : List Instance) : Update :=
  let submitted := IdSet.ofIds (batch.map Instance.id)
  batch.foldl put (batch.foldl (detach submitted) update)

/-- Sweeps what `partitions` no longer reach. A swept node that the write created never existed
as far as anyone can tell, so it is not reported as deleted. -/
def finish (update : Update) (partitions : IdSet) : Update :=
  let swept := update.nodes.unreachable partitions
  let changes := update.changes
  { nodes := update.nodes.without swept
    changes := { changes with
      upserted := changes.upserted.filter fun id => !swept.contains id
      created := changes.created.filter fun id => !swept.contains id
      deleted := swept.foldl
        (fun deleted id => if changes.created.contains id then deleted else deleted.insert id)
        changes.deleted } }

end Update

end ModelRepository
