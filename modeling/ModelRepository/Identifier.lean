/-! The grammar of identifiers and the sizes that requests may not exceed. -/

namespace ModelRepository

/-- The longest identifier, in bytes. -/
def maxIdBytes : Nat := 256

/-- The longest repository name, in bytes. -/
def maxNameBytes : Nat := 128

/-- The longest property value, in bytes. -/
def maxPropertyBytes : Nat := 1048576

/-- The most instances that one chunk may hold. -/
def maxChunkInstances : Nat := 100000

/-- The most identifiers that one request may list. -/
def maxRequestIds : Nat := 10000

/-- The most identifiers that one request may allocate. -/
def maxAllocatedIds : Nat := 10000

/-- The repository that serves requests which name none. -/
def defaultRepository : String := "default"

/-- Identifiers are made of ASCII letters, digits, underscores and hyphens. -/
def isIdChar (c : Char) : Bool :=
  c.isAlphanum || c = '_' || c = '-'

/-- An identifier is a bounded, non-empty word of identifier characters. -/
def isValidId (id : String) : Bool :=
  !id.isEmpty && id.utf8ByteSize ≤ maxIdBytes && id.toList.all isIdChar

/-- A repository name is an identifier with a tighter bound. -/
def isValidName (name : String) : Bool :=
  name.utf8ByteSize ≤ maxNameBytes && isValidId name

end ModelRepository
