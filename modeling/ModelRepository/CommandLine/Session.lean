import ModelRepository.CommandLine.Command
import ModelRepository.DatabaseFile
import ModelRepository.Files.Access
import ModelRepository.Files.Path
import ModelRepository.Server.Operation

/-! Runs of commands.
A session prints, touches files through the monad it runs in, and may end with a refusal; what was
printed until then stays. A server with a database is written back after every operation.
-/

namespace ModelRepository.CommandLine

open Binary (Bytes)
open Files (FileAccess Kind Location Trouble)

/-- A run that may be refused and keeps what it has printed. -/
abbrev Session (m : Type → Type) := ExceptT RepositoryError (StateT String m)

/-- What a command goes by: the settings file and the options, of which the options win. -/
structure Context where
  settings : Settings
  backend : Backend
  database : String
  repository : String
  json : Bool

/-- The largest settings file, in bytes. -/
def maxSettingsBytes : Nat := 1048576

/-- The largest file that holds a chunk, in bytes. -/
def maxChunkBytes : Nat := 100 * 1024 * 1024

/-- The largest snapshot file that is imported, in bytes. -/
def maxImportBytes : Nat := 500 * 1024 * 1024

namespace Session

variable {m : Type → Type} [Monad m]

/-- Prints a line. -/
def print (line : String) : Session m Unit :=
  modify (· ++ line ++ "\n")

/-- Refuses to go on. -/
def refuse {α : Type} (error : RepositoryError) : Session m α :=
  throw error

/-- Goes on with a result. -/
def orRefuse {α : Type} (result : Except RepositoryError α) : Session m α :=
  MonadExcept.ofExcept result

variable [FileAccess m]

/-- Runs an access to files, whose trouble is reported as a fault. -/
def access {α : Type} (fault : String → FileFault) (action : m (Except Trouble α))
    : Session m α := do
  match ← (liftM action : StateT String m _) with
  | .ok value => return value
  | .error trouble => refuse (.inaccessible (fault trouble.message))

/-- The settings that a file holds. -/
def loadSettings (path : String) : Session m Settings := do
  let fault := FileFault.configuration path
  let kind ← access fault (FileAccess.look path)
  if let .file size := kind then
    if maxSettingsBytes < size then
      refuse (.invalidRequest (.configurationTooLarge size maxSettingsBytes))
  let content ← access fault (FileAccess.read path)
  match String.fromUTF8? ⟨content.toArray⟩ with
  | some text => orRefuse (Settings.parse text)
  | none => refuse (.inaccessible (fault "stream did not contain valid UTF-8"))

/-- What a command goes by. -/
def context (options : Options) : Session m Context := do
  let settings ← match options.settingsFile with
    | some path => loadSettings path
    | none => pure {}
  return {
    settings
    backend := (options.backend.or settings.backend).getD .database
    database := (options.database.or settings.database).getD Settings.defaultDatabase
    repository := options.repository
    json := options.json }

/-- The content of a file of limited size. -/
def readInput (path : String) (limit : Nat) : Session m Bytes := do
  let place ← access (FileFault.inputPath path) (FileAccess.locate path)
  match ← access .metadata (FileAccess.look place.path) with
  | .directory | .device => refuse (.inaccessible (.notRegular path))
  | .file size =>
      if limit < size then refuse (.invalidRequest (.fileTooLarge size limit))
      else access .read (FileAccess.read place.path)

/-- The place that a path names; its directory has to exist. -/
def resolveOutput (path : String) : Session m Location := do
  let directory := Files.Path.parent path
  let place ← access (FileFault.outputDirectory directory) (FileAccess.locate directory)
  match ← access (FileFault.outputDirectory directory) (FileAccess.look place.path) with
  | .file _ | .device => refuse (.inaccessible (.notDirectory directory))
  | .directory =>
      match Files.Path.fileName? path with
      | none => refuse (.inaccessible .noFileName)
      | some name =>
          return ⟨Files.Path.join place.path name, Files.Path.join place.fullPath name⟩

/-- Writes to a place. -/
def writeOutput (output : Location) (content : Bytes) : Session m Unit :=
  access .write (FileAccess.write output.path content)

/-- Writes the tables of a server back, where it has any. -/
def save (context : Context) (server : Server) : Session m Unit :=
  match server.storage with
  | .memory => pure ()
  | .database tables =>
      access FileFault.database (FileAccess.write context.database (DatabaseFile.save tables))

/-- Opens a server as it is; a database that is missing is made, and one that cannot keep anything
is refused. -/
def openBare (context : Context) : Session m Server := do
  match context.backend with
  | .memory => return .inMemory .standard
  | .database =>
      let path := context.database
      match ← (liftM (FileAccess.look path : m _) : StateT String m _) with
      | .error _ => access FileFault.database (FileAccess.write path [])
      | .ok .device =>
          refuse (.inaccessible (FileFault.database Trouble.invalidArgument.message))
      | .ok _ => pure ()
      match DatabaseFile.load? (← access FileFault.database (FileAccess.read path)) with
      | none => refuse (.inaccessible .foreignDatabase)
      | some tables =>
          let server ← orRefuse (Server.ofTables .standard tables)
          save context server
          return server

/-- Carries out an operation and writes the server back. -/
def operate (context : Context) (server : Server) (operation : Operation)
    : Session m (Server × Answer) := do
  let outcome := server.perform operation
  match outcome.answer with
  | .error error => refuse error
  | .ok answer =>
      save context outcome.server
      return (outcome.server, answer)

/-- Creates the repositories that have to exist. -/
def createMissing (context : Context) (server : Server) : List Configuration → Session m Server
  | [] => return server
  | configuration :: rest => do
      match (server.perform (.createRepository configuration)).answer with
      | .error (.repositoryAlreadyExists _) => createMissing context server rest
      | _ =>
          let (server, _) ← operate context server (.createRepository configuration)
          createMissing context server rest

/-- Opens a server with the repositories that have to exist; there is at least one. -/
def openServer (context : Context) : Session m Server := do
  let server ← openBare context
  let server ← createMissing context server context.settings.repositories
  let (server, _) ← operate context server .ensureDefault
  return server

end Session

end ModelRepository.CommandLine
