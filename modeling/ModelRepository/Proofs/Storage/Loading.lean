import ModelRepository.Proofs.Binary.RoundTrip
import ModelRepository.Proofs.Grouping
import ModelRepository.Proofs.Storage.Rows
import ModelRepository.Server.State

/-! Tables that hold the repositories of a server give them back.
`Tables.Holds` is what every write to the tables keeps up: the rows are those of the served
repositories and no others. Loading such rows succeeds and yields these very repositories.
-/

namespace ModelRepository

open Std
open Binary (Bytes Layout)

/-- A repository that comes back from its rows: its texts and lists fit, and its counter is not the
zero that a load would correct.
-/
structure Repository.Storable (repository : Repository) : Prop where
  configuration : repository.configuration.Fits
  nodes
    : ∀ (id : String) (node : Instance), repository.nodes[id]? = some node → node.Fits
  counter : repository.nextId ≠ 0

/-- The rows are those of the served repositories. -/
structure Tables.Holds (tables : Tables) (served : ExtTreeMap String Repository) : Prop where
  records
    : ∀ name : String,
        tables.records[name]?
        = served[name]?.map fun repository => Record.layout.encode (.of repository)
  nodes
    : ∀ address : NodeAddress,
        tables.nodes[address]?
        = (served[address.repository]?.bind (·.nodes[address.id]?)).map Binary.node.encode
  partitions
    : ∀ address : NodeAddress,
        address ∈ tables.partitions
        ↔ ∃ repository ∈ served[address.repository]?, address.id ∈ repository.partitions

/-- Every repository is served under its own name and comes back from its rows. -/
structure Served (served : ExtTreeMap String Repository) : Prop where
  named : ∀ (name : String) (repository : Repository),
    served[name]? = some repository → repository.name = name
  storable : ∀ (name : String) (repository : Repository),
    served[name]? = some repository → repository.Storable

-----------------------------------------------------------------------------------------
-- Holding repositories
-----------------------------------------------------------------------------------------

namespace Tables

variable {tables after : Tables} {served servedAfter : ExtTreeMap String Repository} {name : String}
  {content : Option Repository} {repository : Repository}

theorem holds_empty : ({} : Tables).Holds ∅ := by
  refine ⟨?_, ?_, ?_⟩ <;> simp

/-- Replacing the rows of one repository replaces what the tables hold under its name. -/
theorem Holds.replace (held : tables.Holds served) (replaces : tables.Replaces after name content)
    (lookup
      : ∀ owner, servedAfter[owner]? = if owner = name then content else served[owner]?)
    : after.Holds servedAfter := by
  refine ⟨fun owner => ?_, fun address => ?_, fun address => ?_⟩
  · rw [replaces.records, lookup, held.records]
    split <;> rfl
  · rw [replaces.nodes, lookup, held.nodes]
    split <;> rfl
  · rw [replaces.partitions, lookup, held.partitions]
    split <;> rfl

theorem Holds.holdContent (held : tables.Holds served) (found : served[name]? = some repository)
    : tables.HoldContent name repository := by
  refine ⟨fun address same => ?_, fun address same => ?_⟩
  · rw [held.nodes, same, found]
    rfl
  · rw [held.partitions, same, found]
    simp

end Tables

/-- What is served under one name may be replaced by another repository of that name. -/
theorem Served.replace {served servedAfter : ExtTreeMap String Repository} {name : String}
    {content : Option Repository} (sound : Served served)
    (contentSound : ∀ repository ∈ content, repository.name = name ∧ repository.Storable)
    (lookup
      : ∀ owner, servedAfter[owner]? = if owner = name then content else served[owner]?)
    : Served servedAfter := by
  have each (owner : String) (repository : Repository)
      (found : servedAfter[owner]? = some repository)
      : repository.name = owner ∧ repository.Storable := by
    rw [lookup] at found
    split at found
    · rename_i same
      exact same ▸ contentSound repository found
    · exact ⟨sound.named owner repository found, sound.storable owner repository found⟩
  exact ⟨fun owner repository found => (each owner repository found).1,
    fun owner repository found => (each owner repository found).2⟩

-----------------------------------------------------------------------------------------
-- Rows in lists
-----------------------------------------------------------------------------------------

namespace Tables

/-- Rows that were written from values that fit are all read, and each value comes back. -/
theorem exists_decodeRows_eq {κ α : Type} {layout : Layout α} {fits : α → Prop}
    (faithful : layout.Faithful fits) {rows : List (κ × Bytes)}
    (written : ∀ row ∈ rows, ∃ value, fits value ∧ row.2 = layout.encode value)
    (decoded : List (κ × α))
    : ∃ values : List (κ × α),
        decodeRows layout decoded rows = .ok (decoded.reverse ++ values)
        ∧ ∀ key value,
            (key, value) ∈ values ↔ fits value ∧ (key, layout.encode value) ∈ rows := by
  induction rows generalizing decoded with
  | nil => exact ⟨[], by simp [decodeRows], by simp⟩
  | cons head tail ih =>
      obtain ⟨key, bytes⟩ := head
      obtain ⟨⟨value, valueFits, same⟩, tailWritten⟩ := List.forall_mem_cons.mp written
      obtain rfl : bytes = layout.encode value := same
      obtain ⟨values, done, members⟩ := ih tailWritten ((key, value) :: decoded)
      refine ⟨(key, value) :: values, ?_, ?_⟩
      · rw [decodeRows, faithful.decode_encode valueFits]
        simp [done]
      · intro other found
        simp only [List.mem_cons, members, Prod.mk.injEq]
        constructor
        · rintro (⟨rfl, rfl⟩ | ⟨foundFits, member⟩)
          · exact ⟨valueFits, Or.inl ⟨rfl, rfl⟩⟩
          · exact ⟨foundFits, Or.inr member⟩
        · rintro ⟨foundFits, ⟨rfl, same⟩ | member⟩
          · exact Or.inl ⟨rfl, (faithful.encode_inj foundFits valueFits).mp same⟩
          · exact Or.inr ⟨foundFits, member⟩

/-- A table whose rows are written from the values of `source` gives back these values. -/
theorem exists_decodeRows_toList_eq {κ α : Type} [Ord κ] [TransOrd κ] [LawfulEqOrd κ]
    {layout : Layout α} {fits : α → Prop} (faithful : layout.Faithful fits)
    {rows : ExtTreeMap κ Bytes} {source : κ → Option α}
    (held : ∀ key : κ, rows[key]? = (source key).map layout.encode)
    (sourceFits : ∀ key value, source key = some value → fits value)
    : ∃ values : List (κ × α),
        decodeRows layout [] rows.toList = .ok values
        ∧ ∀ key value, (key, value) ∈ values ↔ source key = some value := by
  have written : ∀ row ∈ rows.toList, ∃ value, fits value ∧ row.2 = layout.encode value := by
    intro row member
    rw [ExtTreeMap.mem_toList_iff_getElem?_eq_some, held] at member
    obtain ⟨value, found, same⟩ := Option.map_eq_some_iff.mp member
    exact ⟨value, sourceFits row.1 value found, same.symm⟩
  obtain ⟨values, done, members⟩ := exists_decodeRows_eq faithful written []
  refine ⟨values, done, fun key value => ?_⟩
  rw [members, ExtTreeMap.mem_toList_iff_getElem?_eq_some, held]
  constructor
  · rintro ⟨valueFits, stored⟩
    obtain ⟨other, found, same⟩ := Option.map_eq_some_iff.mp stored
    rw [found, (faithful.encode_inj (sourceFits key other found) valueFits).mp same]
  · intro found
    exact ⟨sourceFits key value found, by rw [found]; rfl⟩

-----------------------------------------------------------------------------------------
-- Loading
-----------------------------------------------------------------------------------------

variable {tables : Tables} {served : ExtTreeMap String Repository}

/-- A repository is put together again from its record, its partitions and its nodes. -/
theorem assemble_eq {repository : Repository} (counter : repository.nextId ≠ 0)
    {partitions : List String} {nodes : List (String × Instance)}
    (registered : ∀ id, id ∈ partitions ↔ id ∈ repository.partitions)
    (stored : ∀ id node, (id, node) ∈ nodes ↔ repository.nodes[id]? = some node)
    : (Record.of repository).assemble partitions nodes = repository := by
  have registry : IdSet.ofIds partitions = repository.partitions :=
    ExtTreeSet.ext_mem fun id => by rw [IdSet.mem_ofIds, registered]
  have functional (id : String) (left right : Instance) (inLeft : (id, left) ∈ nodes)
      (inRight : (id, right) ∈ nodes)
      : left = right :=
    Option.some.inj (((stored id left).mp inLeft).symm.trans ((stored id right).mp inRight))
  have index : nodes.foldl (fun index entry => index.insert entry.1 entry.2) ∅
      = repository.nodes := by
    refine Index.ext_of_forall fun id node => ?_
    rw [getElem?_foldl_insert_eq_some_iff ∅ nodes functional, ← stored]
    simp
  simp only [Record.assemble, Record.of, Repository.ofParts, registry, index, counter, if_false]

/-- Records come back for exactly the served repositories. -/
theorem Holds.exists_records (held : tables.Holds served) (sound : Served served)
    : ∃ records,
        decodeRows Record.layout [] tables.records.toList = .ok records
        ∧ ∀ name record,
            (name, record) ∈ records
            ↔ ∃ repository, served[name]? = some repository ∧ Record.of repository = record := by
  have recorded (name : String)
      : tables.records[name]? = (served[name]?.map Record.of).map Record.layout.encode := by
    rw [held.records, Option.map_map]
    rfl
  obtain ⟨records, done, members⟩ :=
    exists_decodeRows_toList_eq Binary.record_faithful recorded fun name record found => by
      obtain ⟨repository, stored, rfl⟩ := Option.map_eq_some_iff.mp found
      exact (sound.storable name repository stored).configuration
  exact ⟨records, done, fun name record => by rw [members, Option.map_eq_some_iff]⟩

/-- Nodes come back for exactly the addresses of the nodes of served repositories. -/
theorem Holds.exists_nodes (held : tables.Holds served) (sound : Served served)
    : ∃ nodes,
        decodeRows Binary.node [] tables.nodes.toList = .ok nodes
        ∧ ∀ address node,
            (address, node) ∈ nodes
            ↔ served[address.repository]?.bind (·.nodes[address.id]?) = some node := by
  refine exists_decodeRows_toList_eq Binary.node_faithful held.nodes ?_
  intro address node found
  obtain ⟨repository, stored, found⟩ := Option.bind_eq_some_iff.mp found
  exact (sound.storable address.repository repository stored).nodes address.id node found

/-- Tables that hold repositories load, and give back these and no others. -/
theorem Holds.exists_load_eq (held : tables.Holds served) (sound : Served served)
    : ∃ repositories,
        tables.load = .ok repositories
        ∧ ∀ name repository,
            repository ∈ repositories ∧ repository.name = name
            ↔ served[name]? = some repository := by
  obtain ⟨records, recordsRead, recordMembers⟩ := held.exists_records sound
  obtain ⟨nodes, nodesRead, nodeMembers⟩ := held.exists_nodes sound
  refine ⟨_, by rw [load, recordsRead, nodesRead], ?_⟩
  have assembled {name : String} {repository : Repository}
      (found : served[name]? = some repository)
      : (Record.of repository).assemble
          ((group (tables.partitions.toList.map fun row => (row.repository, row.id))).getD name [])
          ((group (nodes.map fun row => (row.1.repository, (row.1.id, row.2)))).getD name [])
        = repository := by
    refine assemble_eq (sound.storable name repository found).counter ?_ ?_
    · intro id
      rw [mem_getD_group_iff, List.mem_map]
      constructor
      · rintro ⟨address, member, same⟩
        cases same
        obtain ⟨owner, stored, listed⟩ :=
          (held.partitions address).mp (ExtTreeSet.mem_toList.mp member)
        cases stored.symm.trans found
        exact listed
      · intro listed
        exact ⟨⟨name, id⟩, ExtTreeSet.mem_toList.mpr
          ((held.partitions ⟨name, id⟩).mpr ⟨repository, found, listed⟩), rfl⟩
    · intro id node
      rw [mem_getD_group_iff, List.mem_map]
      constructor
      · rintro ⟨⟨address, stored⟩, member, same⟩
        cases same
        rw [nodeMembers, found] at member
        exact member
      · intro stored
        exact ⟨(⟨name, id⟩, node), (nodeMembers _ _).mpr (by rw [found]; exact stored), rfl⟩
  intro name repository
  rw [List.mem_map]
  constructor
  · rintro ⟨⟨⟨owner, record⟩, member, same⟩, named⟩
    obtain ⟨stored, found, rfl⟩ := (recordMembers owner record).mp member
    rw [assembled found] at same
    subst same
    rw [← named, sound.named owner stored found]
    exact found
  · intro found
    exact ⟨⟨(name, .of repository), (recordMembers _ _).mpr ⟨repository, found, rfl⟩,
      assembled found⟩, sound.named name repository found⟩

end Tables

/-- A server that opens on tables which hold repositories serves just these. -/
theorem Server.ofTables_eq {tables : Tables} {served : ExtTreeMap String Repository}
    (catalog : Catalog) (held : tables.Holds served) (sound : Served served)
    : ofTables catalog tables
      = .ok { catalog, repositories := served, storage := .database tables } := by
  obtain ⟨repositories, loaded, members⟩ := held.exists_load_eq sound
  let entries := repositories.map fun repository => (repository.name, repository)
  have named (name : String) (repository : Repository)
      : (name, repository) ∈ entries ↔ served[name]? = some repository := by
    rw [← members, List.mem_map]
    simp only [Prod.mk.injEq]
    constructor
    · rintro ⟨_, member, rfl, rfl⟩
      exact ⟨member, rfl⟩
    · rintro ⟨member, rfl⟩
      exact ⟨repository, member, rfl, rfl⟩
  have functional (name : String) (left right : Repository) (inLeft : (name, left) ∈ entries)
      (inRight : (name, right) ∈ entries)
      : left = right :=
    Option.some.inj (((named name left).mp inLeft).symm.trans ((named name right).mp inRight))
  have paired : repositories.foldl
        (fun served repository => ExtTreeMap.insert served repository.name repository)
        (∅ : ExtTreeMap String Repository)
      = entries.foldl (fun served entry => served.insert entry.1 entry.2) ∅ := by
    rw [List.foldl_map]
  have same : entries.foldl (fun served entry => served.insert entry.1 entry.2) ∅ = served := by
    refine ExtTreeMap.ext_getElem? fun name => Option.ext fun repository => ?_
    rw [getElem?_foldl_insert_eq_some_iff ∅ entries functional, ← named]
    simp
  simp only [ofTables, loaded, paired, same]

end ModelRepository
