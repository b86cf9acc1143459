import ModelRepository.Files.Access
import ModelRepository.Files.Path

/-! Trees of files in memory, on which programs can run without a disk.
The working directory is the top of one tree, and what lies outside of it is another one.
-/

namespace ModelRepository.Files

open Binary (Bytes)

/-- A file, a directory with what it holds, or something that keeps nothing. -/
inductive Entry where
  | file (content : Bytes)
  | device
  | directory (entries : List (String × Entry))
  deriving Inhabited

/-- Puts an entry under a name, in place of the one that is there. -/
def putEntry (name : String) (entry : Entry) : List (String × Entry) → List (String × Entry)
  | [] => [(name, entry)]
  | other :: rest =>
      if other.1 = name then (name, entry) :: rest else other :: putEntry name entry rest

/-- Changes the contents of the directory at the end of a way down. -/
def Entry.changeDirectory (change : List (String × Entry) → List (String × Entry))
    : List String → Entry → Entry
  | [], .directory entries => .directory (change entries)
  | name :: names, .directory entries =>
      match entries.lookup name with
      | none => .directory entries
      | some entry => .directory (putEntry name (entry.changeDirectory change names) entries)
  | _, entry => entry

/-- A place in a tree: the names on the way down, latest first, each with the directory that it
was looked up in, and what is there. -/
structure Place where
  way : List (String × Entry)
  entry : Entry

/-- The names on the way down. -/
def Place.names (place : Place) : List String :=
  (place.way.map Prod.fst).reverse

/-- Follows the parts of a path. -/
def Place.follow (place : Place) : List String → Except Trouble Place
  | [] => .ok place
  | part :: parts =>
      match place.entry with
      | .file _ | .device => .error .notDirectory
      | .directory entries =>
          if Path.isIdle part then place.follow parts
          else if part = ".." then
            match place.way with
            | [] => place.follow parts
            | (_, above) :: way => follow ⟨way, above⟩ parts
          else
            match entries.lookup part with
            | some entry => follow ⟨(part, place.entry) :: place.way, entry⟩ parts
            | none =>
                .error (if Path.maxNameBytes < part.utf8ByteSize then .nameTooLong else .notFound)

/-- A working directory, the text that stands for its path, and what absolute paths lead to. -/
structure Tree where
  location : String
  top : Entry := .directory []
  /-- The directory at the top of everything. The working directory cannot be found in it. -/
  outside : Entry := .directory []

namespace Tree

/-- Why a path cannot be followed at all. -/
def pathTrouble? (path : String) : Option Trouble :=
  if path.toList.contains '\x00' then some .brokenPath
  else if path.isEmpty then some .notFound
  else none

/-- Where a path starts. -/
def start (tree : Tree) (path : String) : Place :=
  ⟨[], if Path.isAbsolute path then tree.outside else tree.top⟩

/-- Follows a path whatever its length. -/
def follow (tree : Tree) (path : String) : Except Trouble Place :=
  match pathTrouble? path with
  | some trouble => .error trouble
  | none => (tree.start path).follow (Path.parts path)

/-- The place that a path leads to. -/
def find (tree : Tree) (path : String) : Except Trouble Place :=
  if Path.maxPathBytes < path.utf8ByteSize then .error .nameTooLong else tree.follow path

/-- What a path leads to. -/
def look (tree : Tree) (path : String) : Except Trouble Kind :=
  (tree.find path).map fun place =>
    match place.entry with
    | .file content => .file content.length
    | .device => .device
    | .directory _ => .directory

/-- The location that a path leads to; it is found step by step, so the path may be of any
length. -/
def locate (tree : Tree) (path : String) : Except Trouble Location :=
  (tree.follow path).map fun place =>
    let way := "/".intercalate place.names
    if Path.isAbsolute path then ⟨"/" ++ way, "/" ++ way⟩
    else ⟨if way.isEmpty then "." else way, "/".intercalate (tree.location :: place.names)⟩

/-- The content of a file. -/
def read (tree : Tree) (path : String) : Except Trouble Bytes :=
  match tree.find path with
  | .error trouble => .error trouble
  | .ok place =>
      match place.entry with
      | .file content => .ok content
      | .device => .ok []
      | .directory _ => .error .isDirectory

/-- The directory that holds a file that may be missing, and the name of the file in it. A path
that ends in a slash or in dots is one of a directory. -/
def findFile (tree : Tree) (path : String) : Except Trouble (Place × String) :=
  let parts := ((Path.parts path).reverse.dropWhile (·.isEmpty)).reverse
  if Path.maxPathBytes < path.utf8ByteSize then .error .nameTooLong
  else
    match pathTrouble? path, parts.getLast? with
    | some trouble, _ => .error trouble
    | none, none => .error .isDirectory
    | none, some name =>
        match (tree.start path).follow parts.dropLast with
        | .error trouble => .error trouble
        | .ok place =>
            match place.entry with
            | .file _ | .device => .error .notDirectory
            | .directory entries =>
                if name = "." ∨ name = ".." ∨ path.endsWith "/" then .error .isDirectory
                else
                  match entries.lookup name with
                  | some (.directory _) => .error .isDirectory
                  | some _ => .ok (place, name)
                  | none =>
                      if Path.maxNameBytes < name.utf8ByteSize then .error .nameTooLong
                      else .ok (place, name)

/-- The tree with the contents changed of the directory that a path has led to. -/
def changeAt (tree : Tree) (path : String) (place : Place)
    (change : List (String × Entry) → List (String × Entry)) : Tree :=
  if Path.isAbsolute path then
    { tree with outside := tree.outside.changeDirectory change place.names }
  else { tree with top := tree.top.changeDirectory change place.names }

/-- The tree with a file written. -/
def write (tree : Tree) (path : String) (content : Bytes) : Except Trouble Tree :=
  match tree.look path with
  | .ok .device => .ok tree
  | _ =>
      (tree.findFile path).map fun (place, name) =>
        tree.changeAt path place (putEntry name (.file content))

/-- The tree without a file. -/
def remove (tree : Tree) (path : String) : Except Trouble Tree :=
  match tree.read path with
  | .error trouble => .error trouble
  | .ok _ =>
      (tree.findFile path).map fun (place, name) =>
        tree.changeAt path place (·.filter (·.1 ≠ name))

/-- The tree with an empty directory made. -/
def makeDirectory (tree : Tree) (path : String) : Except Trouble Tree :=
  (tree.findFile path).map fun (place, name) =>
    tree.changeAt path place (putEntry name (.directory []))

/-- Takes the tree that a change leads to. -/
def settle (change : Tree → Except Trouble Tree) : StateM Tree (Except Trouble Unit) := do
  match change (← get) with
  | .ok tree =>
      set tree
      return .ok ()
  | .error trouble => return .error trouble

instance : FileAccess (StateM Tree) where
  look path := return (← get).look path
  locate path := return (← get).locate path
  read path := return (← get).read path
  write path content := settle (·.write path content)
  remove path := settle (·.remove path)

end Tree

end ModelRepository.Files
