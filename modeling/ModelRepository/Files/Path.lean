import ModelRepository.Text.Blank

/-! Paths as texts.
A path is a row of names between slashes. Empty names, and dots that do not stand in front, count
for nothing; two dots lead to the directory above.
-/

namespace ModelRepository.Files.Path

/-- The parts of a path between slashes. -/
def parts (path : String) : List String :=
  (Text.splitAtAll (· = '/') path.toList).map String.ofList

/-- Parts that lead nowhere. -/
def isIdle (part : String) : Bool :=
  part = "" || part = "."

/-- The parts without those at the end that lead nowhere; the first part always counts. -/
def trimmed : List String → List String
  | [] => []
  | first :: rest => first :: (rest.reverse.dropWhile isIdle).reverse

/-- Whether a path starts at the top of everything. -/
def isAbsolute (path : String) : Bool :=
  path.startsWith "/"

/-- The most bytes that a name may have. -/
def maxNameBytes : Nat := 255

/-- The most bytes that a path may have. -/
def maxPathBytes : Nat := 4095

/-- The name at the end of a path; paths that end in dots have none. -/
def fileName? (path : String) : Option String :=
  ((trimmed (parts path)).getLast?).filter fun name => !isIdle name && name ≠ ".."

/-- The directory that holds what a path leads to. -/
def parent (path : String) : String :=
  match trimmed (trimmed (parts path)).dropLast with
  | [] => "."
  | [""] => "/"
  | kept => "/".intercalate kept

/-- A name inside a directory. -/
def join (directory name : String) : String :=
  if directory = "/" then "/" ++ name else directory ++ "/" ++ name

end ModelRepository.Files.Path
