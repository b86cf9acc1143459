import ModelRepository.Binary.Fault
import ModelRepository.FormatVersion
import ModelRepository.Identifier
import ModelRepository.Text.Quoted

/-! Why an operation was refused, and the texts that report it.
Each refusal is a cause with the values that it mentions; the wording is kept in one place.
-/

namespace ModelRepository

/-- A request that is malformed or exceeds a limit. -/
inductive RequestFault where
  | unsupportedFormat (name : String)
  | unknownBackend (name : String)
  | propertyTooLong (node : String)
  | tooManyInstances (count : Nat)
  | formatMismatch (chunk repository : FormatVersion)
  | noPartitionRoot
  | emptyChunk
  | negativeDepth (depth : Int)
  | negativeCount (count : Int)
  | countTooLarge (count : Nat)
  | emptyIdList
  | tooManyIds (count : Nat)
  | invalidName (name : String)
  | configurationTooLarge (size limit : Nat)
  | fileTooLarge (size limit : Nat)
  | databaseRequired
  | databaseExists
  | unknownExportFormat (name : String)
  | inconsistent (errors : Nat)
  deriving DecidableEq

/-- Bytes or text that do not hold what they should. -/
inductive DecodeFault where
  | chunkText
  | configurationText
  | archiveTooShort
  | archiveHeaderTooShort
  | archiveHeader (fault : Binary.Fault)
  | archiveMagic
  | archiveVersion
  | archiveData (fault : Binary.Fault)
  | archiveCount
  | archiveChecksum (expected actual : UInt64)
  | snapshotTooShort
  | snapshotTooLarge (size limit : Nat)
  | snapshotHeaderTooShort
  | snapshotMagic
  | snapshotVersion (version : UInt8)
  | snapshotData (fault : Binary.Fault)
  | storedRow (fault : Binary.Fault)
  deriving DecidableEq

/-- A file or database that could not be used. -/
inductive FileFault where
  | configuration (path reason : String)
  | metadata (reason : String)
  | inputPath (path reason : String)
  | notRegular (path : String)
  | outputDirectory (path reason : String)
  | notDirectory (path : String)
  | noFileName
  | read (reason : String)
  | write (reason : String)
  | removeDatabase (reason : String)
  | database (reason : String)
  /-- The file is not empty and no database either. -/
  | foreignDatabase
  deriving DecidableEq

/-- Why an operation was refused. -/
inductive RepositoryError where
  | invalidId (id : String)
  | danglingContainment (node missing : String)
  | unknownNodes (ids : List String)
  | repositoryNotFound (name : String)
  | repositoryAlreadyExists (name : String)
  | partitionNotFound (id : String)
  | unregisteredPartition (id : String)
  | duplicateId (id : String)
  | invalidReference (node : String)
  | invalidRequest (fault : RequestFault)
  | historyUnsupported (name : String)
  | undecodable (fault : DecodeFault)
  | inaccessible (fault : FileFault)
  /-- The identifier counter has reached its end and the last identifier is taken. -/
  | idsExhausted (name : String)
  deriving DecidableEq

namespace RequestFault

/-- The text that reports a fault of a request. -/
def message : RequestFault → String
  | unsupportedFormat name => "Unsupported serialization format version: " ++ name
  | unknownBackend name => "Unknown backend: " ++ name ++ ". Use: memory, redb"
  | propertyTooLong node =>
      "Property value on " ++ node ++ " exceeds " ++ toString maxPropertyBytes ++ " bytes"
  | tooManyInstances count =>
      "Chunk has " ++ toString count ++ " instances, maximum is " ++ toString maxChunkInstances
  | formatMismatch chunk repository =>
      "Chunk format " ++ chunk.text ++ " does not match repository format " ++ repository.text
  | noPartitionRoot => "Chunk contains no partition root"
  | emptyChunk => "Chunk has no nodes"
  | negativeDepth depth => "depthLimit must be non-negative, got " ++ toString depth
  | negativeCount count => "count must be non-negative, got " ++ toString count
  | countTooLarge count =>
      "count " ++ toString count ++ " exceeds maximum " ++ toString maxAllocatedIds
  | emptyIdList => "ids must not be empty"
  | tooManyIds count =>
      "ids has " ++ toString count ++ " entries, maximum is " ++ toString maxRequestIds
  | invalidName name => "Invalid repository name: " ++ Text.quote name
  | configurationTooLarge size limit =>
      "Config file size " ++ toString size ++ " bytes exceeds maximum allowed "
        ++ toString limit ++ " bytes"
  | fileTooLarge size limit =>
      "File size " ++ toString size ++ " bytes exceeds maximum allowed "
        ++ toString limit ++ " bytes"
  | databaseRequired => "init requires the redb backend"
  | databaseExists => "Database already exists. Use --force to overwrite."
  | unknownExportFormat name =>
      "Unknown format: " ++ name ++ ". Use: snapshot, canonical, json"
  | inconsistent errors => "consistency check found " ++ toString errors ++ " error(s)"

end RequestFault

namespace DecodeFault

/-- The text that reports a fault; the reason why a text cannot be read stays unsaid. -/
def message : DecodeFault → String
  | chunkText => "Invalid chunk JSON:"
  | configurationText => "Invalid config:"
  | archiveTooShort => "Data too short"
  | archiveHeaderTooShort => "Data too short for header"
  | archiveHeader fault => "Header: " ++ fault.message
  | archiveMagic => "Invalid canonical format"
  | archiveVersion => "Unsupported canonical version"
  | archiveData fault => "Data: " ++ fault.message
  | archiveCount => "Instance count mismatch"
  | archiveChecksum expected actual =>
      "Checksum mismatch: expected " ++ toString expected.toNat ++ ", got "
        ++ toString actual.toNat
  | snapshotTooShort => "Data too short: minimum 5 bytes required"
  | snapshotTooLarge size limit =>
      "Data size " ++ toString size ++ " bytes exceeds maximum allowed "
        ++ toString limit ++ " bytes"
  | snapshotHeaderTooShort => "Header too short"
  | snapshotMagic => "Invalid magic bytes"
  | snapshotVersion version =>
      "Unsupported version: " ++ toString version.toNat ++ " (expected 1)"
  | snapshotData fault => "Failed to decode repository snapshot: " ++ fault.message
  | storedRow fault => fault.message

end DecodeFault

namespace FileFault

/-- The text that reports trouble with a file. -/
def message : FileFault → String
  | configuration path reason => "Cannot read config '" ++ path ++ "': " ++ reason
  | metadata reason => "Cannot read file metadata: " ++ reason
  | inputPath path reason => "Invalid file path '" ++ path ++ "': " ++ reason
  | notRegular path => "Path '" ++ path ++ "' is not a regular file"
  | outputDirectory path reason => "Invalid output directory '" ++ path ++ "': " ++ reason
  | notDirectory path => "Output directory '" ++ path ++ "' is not a valid directory"
  | noFileName => "Output path has no filename"
  | read reason => "Read file: " ++ reason
  | write reason => "Write file: " ++ reason
  | removeDatabase reason => "Remove database: " ++ reason
  | database reason => "I/O error: " ++ reason
  | foreignDatabase => "I/O error: Not a redb database: magic number mismatch"

end FileFault

namespace RepositoryError

/-- The text that reports a refusal. -/
def message : RepositoryError → String
  | invalidId id => "Invalid node id: " ++ Text.quote id
  | danglingContainment node missing =>
      "Dangling containment: " ++ node ++ " lists unknown child " ++ missing
  | unknownNodes ids => "Unknown nodes: " ++ Text.quoteList ids
  | repositoryNotFound name => "Repository not found: " ++ name
  | repositoryAlreadyExists name => "Repository already exists: " ++ name
  | partitionNotFound id => "Partition not found: " ++ id
  | unregisteredPartition id =>
      "Node " ++ id ++ " has no parent and is not a registered partition"
  | duplicateId id => "Duplicate id in request: " ++ id
  | invalidReference node =>
      "Invalid reference on " ++ node ++ ": entry has neither target nor resolve info"
  | invalidRequest fault => "Invalid request: " ++ fault.message
  | historyUnsupported name => "History is not supported (repository " ++ name ++ ")"
  | undecodable fault => "Deserialization error: " ++ fault.message
  | inaccessible fault => "I/O error: " ++ fault.message
  | idsExhausted name => "No identifiers left (repository " ++ name ++ ")"

/-- A validation error blames the submitted values rather than the state or the surroundings. -/
def isValidation : RepositoryError → Bool
  | invalidId _ | danglingContainment .. | unregisteredPartition _ | duplicateId _
  | invalidReference _ | invalidRequest _ | historyUnsupported _ => true
  | _ => false

end RepositoryError

end ModelRepository
