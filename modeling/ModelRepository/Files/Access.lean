import ModelRepository.Binary.Layout

/-! What programs need of the files around them. -/

namespace ModelRepository.Files

open Binary (Bytes)

/-- Why a file cannot be used. -/
inductive Trouble where
  | notFound
  | notDirectory
  | isDirectory
  | nameTooLong
  | invalidArgument
  /-- The path holds a character that ends paths. -/
  | brokenPath
  | other (text : String)
  deriving DecidableEq

/-- The text that reports a trouble. -/
def Trouble.message : Trouble → String
  | notFound => "No such file or directory (os error 2)"
  | notDirectory => "Not a directory (os error 20)"
  | isDirectory => "Is a directory (os error 21)"
  | invalidArgument => "Invalid argument (os error 22)"
  | nameTooLong => "File name too long (os error 36)"
  | brokenPath => "file name contained an unexpected NUL byte"
  | other text => text

/-- What a path leads to. -/
inductive Kind where
  /-- A file of a number of bytes. -/
  | file (size : Nat)
  | directory
  /-- Something that can be read and written, but keeps nothing. -/
  | device
  deriving DecidableEq

/-- Where a path leads to, without dots. -/
structure Location where
  /-- The path to go on with. -/
  path : String
  /-- The full path, by which the place is reported. -/
  fullPath : String
  deriving DecidableEq

/-- Access to files from a monad. Paths without a slash in front start at the working directory. -/
class FileAccess (m : Type → Type) where
  /-- What a path leads to. -/
  look : String → m (Except Trouble Kind)
  locate : String → m (Except Trouble Location)
  read : String → m (Except Trouble Bytes)
  /-- Writes a file, which is made if it is missing. -/
  write : String → Bytes → m (Except Trouble Unit)
  remove : String → m (Except Trouble Unit)

end ModelRepository.Files
