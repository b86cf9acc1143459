import ModelRepository.Archive
import ModelRepository.CommandLine.Session
import ModelRepository.Interchange.Reading
import ModelRepository.Interchange.Reports

/-! What each command does and prints. -/

namespace ModelRepository.CommandLine

open Files (FileAccess)
open Json (Value)

/-- A text with spaces behind it, at least `width` characters long. -/
def padRight (width : Nat) (text : String) : String :=
  text ++ String.ofList (List.replicate (width - text.length) ' ')

/-- A text with spaces in front of it, at least `width` characters long. -/
def padLeft (width : Nat) (text : String) : String :=
  String.ofList (List.replicate (width - text.length) ' ') ++ text

/-- The identifiers between the commas of a text. -/
def listedIds (text : String) : List String :=
  ((Text.commaParts text).map Text.strip).filter (!·.isEmpty)

/-- The document of a chunk, spread over lines. -/
def documentText (chunk : Chunk) : String :=
  (Interchange.documentValue (.ofChunk chunk)).pretty

namespace Session

variable {m : Type → Type} [Monad m] [FileAccess m]

/-- Prints a value, spread over lines. -/
def printValue (value : Value) : Session m Unit :=
  print value.pretty

/-- The repository that the options name. -/
def repository (context : Context) (server : Server) : Session m Repository :=
  orRefuse (server.repository context.repository)

/-- Tells where the service would listen and what it would answer. -/
def announce (context : Context) (host : Option String) (port : Option Nat) : Session m Unit := do
  let server ← openServer context
  print "Canopy Repository Server Starting..."
  print ""
  print "Configuration:"
  print ("  Host:         " ++ host.getD context.settings.host)
  print ("  Port:         " ++ toString (port.getD context.settings.port))
  print ("  Backend:      " ++ context.backend.text)
  print ("  Database:     " ++ Text.quote context.database)
  print ("  Repositories: " ++ toString server.configurations.length)

/-- Makes a new database. -/
def newDatabase (context : Context) (force : Bool) : Session m Unit := do
  if context.backend = .memory then refuse (.invalidRequest .databaseRequired)
  if let .ok _ ← (liftM (FileAccess.look context.database : m _) : StateT String m _) then
    if !force then refuse (.invalidRequest .databaseExists)
    access .removeDatabase (FileAccess.remove context.database)
  let server ← openServer context
  print ("Initialized new redb database at " ++ Text.quote context.database ++ " ("
    ++ toString server.configurations.length ++ " repositories)")

/-- Lists the repositories. -/
def listRepositories (context : Context) : Session m Unit := do
  let server ← openServer context
  if context.json then
    printValue (.array (server.configurations.map Interchange.configurationValue))
  else
    print "Repositories"
    print "============"
    for repository in server.repositories.values do
      print ("  " ++ padRight 24 repository.name ++ " format "
        ++ repository.configuration.formatVersion.text ++ "  version "
        ++ repository.versionToken)

/-- Creates a repository. -/
def createRepository (context : Context) (name : String) (formatVersion : FormatVersion)
    : Session m Unit := do
  let server ← openServer context
  let _ ← operate context server (.createRepository { name, formatVersion })
  print ("Created repository " ++ name ++ " (format " ++ formatVersion.text ++ ")")

/-- Deletes a repository. -/
def deleteRepository (context : Context) (name : String) : Session m Unit := do
  let server ← openServer context
  let _ ← operate context server (.deleteRepository name)
  print ("Deleted repository " ++ name)

/-- Shows the metrics of a repository. -/
def status (context : Context) : Session m Unit := do
  let server ← openServer context
  let metrics := Inspection.metrics (← repository context server)
  if context.json then
    printValue (.object [
      ("database", .text context.database),
      ("backend", .text context.backend.text),
      ("repository", .text context.repository),
      ("metrics", Interchange.metricsValue metrics)
    ])
  else
    print "Canopy Repository Status"
    print "========================"
    print ("Database:   " ++ Text.quote context.database)
    print ("Backend:    " ++ context.backend.text)
    print ("Repository: " ++ context.repository)
    print ""
    print ("Version:           v-" ++ toString metrics.version.toNat)
    print ("Nodes:             " ++ toString metrics.nodeCount)
    print ("Partitions:        " ++ toString metrics.partitionCount)
    print ("Annotations:       " ++ toString metrics.annotationCount)
    print ("References:        " ++ toString metrics.referenceCount ++ " ("
      ++ toString metrics.danglingReferenceCount ++ " dangling)")
    print ("Max Depth:         " ++ toString metrics.maxDepth)

/-- Audits every repository, and refuses when there is an error. -/
def check (context : Context) : Session m Unit := do
  let server ← openServer context
  let audits := server.audits
  if context.json then printValue (Interchange.auditsValue audits)
  else
    for (name, issues) in audits do
      if issues.isEmpty then print (name ++ ": consistent")
      else
        print (name ++ ": " ++ toString issues.length ++ " issue(s)")
        for issue in issues do
          print ("  " ++ issue.display)
  let errors := countSeverity (audits.flatMap Prod.snd) .error
  if 0 < errors then refuse (.invalidRequest (.inconsistent errors))

/-- The chunk that a file holds. -/
def readChunk (file : String) : Session m Chunk := do
  orRefuse (Interchange.parseChunk (← readInput file maxChunkBytes))

/-- Writes a chunk to a repository; `done` opens the line that reports it. -/
def writeChunk (context : Context) (file done : String) (operation : Chunk → Operation)
    : Session m Unit := do
  let chunk ← readChunk file
  let server ← openServer context
  let (server, _) ← operate context server (operation chunk)
  print (done ++ toString chunk.size ++ " node(s) in " ++ context.repository ++ " -> "
    ++ (← repository context server).versionToken)

/-- Retrieves subtrees, to a file or to the output. -/
def retrieve (context : Context) (ids : String) (depth : Option Int) (output : Option String)
    : Session m Unit := do
  let server ← openServer context
  let result ← orRefuse
    (server.bulkRetrieve context.repository (listedIds ids) (depth.getD unboundedFrom))
  let text := documentText result.chunk
  match output with
  | none => print text
  | some path =>
      let output ← resolveOutput path
      writeOutput output text.toUTF8.data.toList
      print ("Wrote " ++ toString result.chunk.size ++ " node(s) to "
        ++ Text.quote output.fullPath)

/-- Lists the partitions of a repository. -/
def partitions (context : Context) : Session m Unit := do
  let server ← openServer context
  let summaries := Inspection.summaries (← repository context server)
  if context.json then printValue (.array (summaries.map Interchange.summaryValue))
  else if summaries.isEmpty then print ("No partitions in " ++ context.repository)
  else
    for summary in summaries do
      print ("  " ++ padRight 24 summary.id ++ " " ++ padRight 32 summary.classifier ++ " "
        ++ padLeft 8 (toString summary.size) ++ " node(s)  " ++ summary.name.getD "")

/-- The bytes of an export: the full state of a repository, or its content in one of two forms. -/
def exported (context : Context) (server : Server) (format : String) : Session m Binary.Bytes := do
  if format = "snapshot" then return SnapshotFile.save (← repository context server)
  else if format = "canonical" then
    let content := (← repository context server).retrieveAll
    print ("Checksum: " ++ toString content.checksum.toNat)
    return Archive.encode content
  else if format = "json" then
    return (documentText (← repository context server).retrieveAll).toUTF8.data.toList
  else refuse (.invalidRequest (.unknownExportFormat format))

/-- Exports a repository to a file. -/
def exportTo (context : Context) (path format : String) : Session m Unit := do
  let output ← resolveOutput path
  let server ← openServer context
  let content ← exported context server format
  writeOutput output content
  print ("Exported " ++ toString content.length ++ " bytes to " ++ Text.quote output.fullPath)

/-- Imports the repository that a snapshot file holds. -/
def importFrom (context : Context) (path : String) : Session m Unit := do
  let file ← readInput path maxImportBytes
  let server ← openBare context
  let (server, name) ← orRefuse (server.importSnapshot file)
  save context server
  let repository ← orRefuse (server.repository name)
  let issues := repository.audit server.catalog
  print ("Imported repository " ++ name ++ ": " ++ toString repository.nodes.size ++ " nodes, "
    ++ toString repository.partitions.size ++ " partitions")
  if !isSuccessful issues then
    print ("Warning: " ++ toString issues.length
      ++ " consistency issue(s); run `canopy check`")

/-- Runs a command. -/
def execute (context : Context) : Command → Session m Unit
  | .serve host port => announce context host port
  | .newDatabase force => newDatabase context force
  | .repositories => listRepositories context
  | .createRepository name formatVersion => createRepository context name formatVersion
  | .deleteRepository name => deleteRepository context name
  | .status => status context
  | .check => check context
  | .store file =>
      writeChunk context file "Stored " (.bulkStore context.repository)
  | .createPartitions file =>
      writeChunk context file "Created partitions from " (.bulkCreate context.repository)
  | .retrieve ids depth output => retrieve context ids depth output
  | .partitions => partitions context
  | .exportTo output format => exportTo context output format
  | .importFrom input => importFrom context input

end Session

/-- What a command line printed, and how it ended. -/
structure Run where
  printed : String
  result : Except RepositoryError Unit

/-- Runs a command under options. -/
def run {m : Type → Type} [Monad m] [FileAccess m] (options : Options) (command : Command)
    : m Run := do
  let session : Session m Unit := do
    Session.execute (← Session.context options) command
  let (result, printed) ← (ExceptT.run session).run ""
  return { printed, result }

end ModelRepository.CommandLine
