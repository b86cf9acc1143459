import ModelRepository.Tables

/-! Database files, which hold the tables of a server.
A file opens with four bytes that mark its kind; an empty file is a database without rows.
-/

namespace ModelRepository.DatabaseFile

open Binary (Bytes)

/-- The bytes with which every database file begins. -/
def magic : Bytes := [77, 82, 84, 49]

open Binary.Layout in
/-- The rows of the three tables. -/
def layout : Binary.Layout
    (List (String × Bytes) × List ((String × String) × Bytes) × List (String × String)) :=
  pair (list (pair text (list byte)))
    (pair (list (pair (pair text text) (list byte))) (list (pair text text)))

/-- The file of tables. -/
def save (tables : Tables) : Bytes :=
  magic ++ layout.encode (
    tables.records.toList,
    tables.nodes.toList.map fun (address, row) => ((address.repository, address.id), row),
    tables.partitions.toList.map fun address => (address.repository, address.id))

/-- The tables that a file holds; nothing when it is no database. -/
def load? (file : Bytes) : Option Tables :=
  if file.isEmpty then some {}
  else if file.take magic.length ≠ magic then none
  else
    match layout.decode (file.drop magic.length) with
    | .error _ => none
    | .ok (records, nodes, partitions) =>
        some {
          records := records.foldl (fun rows row => rows.insert row.1 row.2) ∅
          nodes := nodes.foldl (fun rows row => rows.insert ⟨row.1.1, row.1.2⟩ row.2) ∅
          partitions := partitions.foldl (fun rows row => rows.insert ⟨row.1, row.2⟩) ∅ }

end ModelRepository.DatabaseFile
