/-! The values of a TOML text and the rules by which tables grow.
A header may open each table once, a dotted key may only add to tables that dotted keys have made,
and an inline table is complete where it stands.
-/

namespace ModelRepository.Toml

/-- How a table has come about. -/
inductive Origin where
  /-- By a header of its own; so is the table that holds everything. -/
  | header
  /-- On the way to a header further inside. -/
  | implied
  | dotted
  | inline
  deriving DecidableEq

/-- A value. -/
inductive Item where
  | text (value : String)
  | integer (value : Int)
  /-- A value of a kind that no setting has. -/
  | foreign
  | array (items : List Item)
  /-- The tables that headers in double brackets have opened, latest first. -/
  | tables (tables : List Item)
  | table (origin : Origin) (entries : List (String × Item))
  deriving Inhabited

/-- The entries of a table, latest first. -/
abbrev Entries := List (String × Item)

/-- The entries with the item at `key` exchanged. -/
def Entries.exchange (key : String) (item : Item) : Entries → Entries
  | [] => []
  | entry :: rest =>
      if entry.1 = key then (key, item) :: rest else entry :: Entries.exchange key item rest

/-- Changes the table at the end of a path. Missing tables on the way are made; `dotted` tells
whether the path belongs to a dotted key. -/
def changeAt (dotted : Bool) (change : Origin → Entries → Option Entries)
    : List String → Origin → Entries → Option Entries
  | [], origin, entries => change origin entries
  | key :: path, _, entries =>
      match entries.lookup key with
      | none =>
          let origin := if dotted then Origin.dotted else Origin.implied
          (changeAt dotted change path origin []).map fun inner =>
            (key, .table origin inner) :: entries
      | some (.table origin inner) =>
          if origin = .inline || (dotted && origin = .header) then none
          else
            (changeAt dotted change path origin inner).map fun inner =>
              entries.exchange key (.table origin inner)
      | some (.tables (.table origin inner :: before)) =>
          (changeAt dotted change path origin inner).map fun inner =>
            entries.exchange key (.tables (.table origin inner :: before))
      | some _ => none

namespace Entries

/-- Adds an item under a key, which may be dotted. -/
def add (path : List String) (key : String) (item : Item) (entries : Entries) : Option Entries :=
  changeAt true
    (fun origin entries =>
      if path.isEmpty = (origin = .dotted) || (entries.lookup key).isSome then none
      else some ((key, item) :: entries))
    path .header entries

/-- Opens the table of a header. -/
def openTable (path : List String) (key : String) (entries : Entries) : Option Entries :=
  changeAt false
    (fun _ entries =>
      match entries.lookup key with
      | none => some ((key, .table .header []) :: entries)
      | some (.table .implied inner) => some (entries.exchange key (.table .header inner))
      | some _ => none)
    path .header entries

/-- Opens the next table of a header in double brackets. -/
def openNextTable (path : List String) (key : String) (entries : Entries) : Option Entries :=
  changeAt false
    (fun _ entries =>
      match entries.lookup key with
      | none => some ((key, .tables [.table .header []]) :: entries)
      | some (.tables tables) =>
          some (entries.exchange key (.tables (.table .header [] :: tables)))
      | some _ => none)
    path .header entries

/-- Adds an item to the table of the header at `current`. -/
def addUnder (current path : List String) (key : String) (item : Item) (entries : Entries)
    : Option Entries :=
  changeAt false (fun _ entries => entries.add path key item) current .header entries

end Entries

end ModelRepository.Toml
