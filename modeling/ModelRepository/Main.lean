import ModelRepository.CommandLine.Execution

/-! The program: command lines run on the files of the system. -/

namespace ModelRepository

open Files

/-- The result of an access to files, with the trouble if there is one. -/
def attempt {α : Type} (action : IO α) : IO (Except Trouble α) := do
  try
    return .ok (← action)
  catch error =>
    match error with
    | .noFileOrDirectory .. => return .error .notFound
    | .inappropriateType .. => return .error .notDirectory
    | error => return .error (.other (toString error))

/-- What a path leads to. -/
def lookAt (path : String) : IO (Except Trouble Kind) :=
  attempt do
    let full ← IO.FS.realPath path
    let metadata ← full.metadata
    return match metadata.type with
      | .dir => .directory
      | .file | .symlink => .file metadata.byteSize.toNat
      | .other => .device

/-- Runs an access that directories are no use for. -/
def unlessDirectory {α : Type} (path : String) (action : IO α) : IO (Except Trouble α) := do
  match ← lookAt path with
  | .ok .directory => return .error .isDirectory
  | _ => attempt action

instance : FileAccess IO where
  look := lookAt
  locate path := attempt do
    let full := (← IO.FS.realPath path).toString
    return ⟨full, full⟩
  read path := unlessDirectory path do return (← IO.FS.readBinFile path).data.toList
  write path content := unlessDirectory path (IO.FS.writeBinFile path ⟨content.toArray⟩)
  remove path := unlessDirectory path (IO.FS.removeFile path)

/-- How the program is used. -/
def usage : String :=
  "Usage: canopy [OPTIONS] [COMMAND]\n\nCommands: "
    ++ ", ".intercalate CommandLine.commandNames

/-- Runs a command line and gives the exit code. -/
def runArguments (arguments : List String) : IO UInt32 := do
  match CommandLine.parse arguments with
  | .error .helpWanted =>
      IO.println usage
      return 0
  | .error .versionWanted =>
      IO.println "canopy 0.4.2"
      return 0
  | .error _ =>
      IO.eprintln usage
      return 2
  | .ok (options, command) =>
      let run : CommandLine.Run ← CommandLine.run options command
      IO.print run.printed
      match run.result with
      | .ok () => return 0
      | .error error =>
          IO.eprintln ("Error: " ++ error.message)
          return 1

end ModelRepository

/-- Runs the program on its arguments and ends with its exit code. -/
def main (arguments : List String) : IO UInt32 :=
  ModelRepository.runArguments arguments
