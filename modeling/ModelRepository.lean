import ModelRepository.Archive
import ModelRepository.Audit
import ModelRepository.Batch
import ModelRepository.Binary.Fault
import ModelRepository.Binary.Layout
import ModelRepository.Binary.Records
import ModelRepository.Canonical
import ModelRepository.Catalog
import ModelRepository.Chunk
import ModelRepository.CommandLine.Arguments
import ModelRepository.CommandLine.Command
import ModelRepository.CommandLine.Execution
import ModelRepository.CommandLine.Session
import ModelRepository.Configuration
import ModelRepository.DatabaseFile
import ModelRepository.Digest.Blake3
import ModelRepository.Digest.Checksum
import ModelRepository.Error
import ModelRepository.Files.Access
import ModelRepository.Files.Path
import ModelRepository.Files.Tree
import ModelRepository.FormatVersion
import ModelRepository.Grouping
import ModelRepository.Http.ApiKey
import ModelRepository.Http.Call
import ModelRepository.Http.CrossOrigin
import ModelRepository.Http.MediaType
import ModelRepository.Http.Message
import ModelRepository.Http.Parameters
import ModelRepository.Http.Route
import ModelRepository.Http.Service
import ModelRepository.Http.Status
import ModelRepository.Identifier
import ModelRepository.Index
import ModelRepository.Inspection
import ModelRepository.Instance
import ModelRepository.Interchange.Document
import ModelRepository.Interchange.Reading
import ModelRepository.Interchange.Reports
import ModelRepository.Interchange.Writing
import ModelRepository.Issue
import ModelRepository.Json.Decoder
import ModelRepository.Json.Lexeme
import ModelRepository.Json.Magnitude
import ModelRepository.Json.Tree
import ModelRepository.Json.Value
import ModelRepository.NodeAddress
import ModelRepository.Observers
import ModelRepository.Pointer
import ModelRepository.Reachability
import ModelRepository.Repository
import ModelRepository.Retrieval
import ModelRepository.Server.Bulk
import ModelRepository.Server.Operation
import ModelRepository.Server.State
import ModelRepository.Settings
import ModelRepository.SnapshotFile
import ModelRepository.Tables
import ModelRepository.Text.Blank
import ModelRepository.Text.Hex
import ModelRepository.Text.Numeral
import ModelRepository.Text.Printable
import ModelRepository.Text.Quoted
import ModelRepository.Text.Utf8
import ModelRepository.Toml.Document
import ModelRepository.Toml.Item
import ModelRepository.Toml.Scalar
import ModelRepository.Toml.Token
import ModelRepository.Update
import ModelRepository.Main
import ModelRepository.Proofs.Grouping
import ModelRepository.Proofs.Index.Lookup
import ModelRepository.Proofs.Index.Reachability
import ModelRepository.Proofs.Index.Release
import ModelRepository.Proofs.Index.Merge
import ModelRepository.Proofs.Index.Ownership
import ModelRepository.Proofs.Index.OwnershipPaths
import ModelRepository.Proofs.Index.Trees
import ModelRepository.Proofs.Update.Passes
import ModelRepository.Proofs.Batch.Acceptance
import ModelRepository.Proofs.Repository.Commit
import ModelRepository.Proofs.Audit.ParentChains
import ModelRepository.Proofs.Audit.Findings
import ModelRepository.Proofs.Repository.History
import ModelRepository.Proofs.Repository.Submission
import ModelRepository.Proofs.Audit.Cleanliness
import ModelRepository.Proofs.Audit.Forest
import ModelRepository.Proofs.Repository.Consistency
import ModelRepository.Proofs.Repository.Ownership
import ModelRepository.Proofs.Repository.Difference
import ModelRepository.Proofs.Retrieval.Walk
import ModelRepository.Proofs.Retrieval.Collection
import ModelRepository.Proofs.Binary.RoundTrip
import ModelRepository.Proofs.Binary.Size
import ModelRepository.Proofs.Storage.Rows
import ModelRepository.Proofs.Storage.Loading
import ModelRepository.Proofs.Storage.SnapshotFile
import ModelRepository.Proofs.Storage.Writes
import ModelRepository.Proofs.Server.Refusal
import ModelRepository.Proofs.Server.Runs
import ModelRepository.Proofs.Server.Reopening
import ModelRepository.Proofs.Server.Transfer
import ModelRepository.Proofs.Http.Refusal
import ModelRepository.Proofs.Chunk.Canonical
import ModelRepository.Proofs.Chunk.Archive
import ModelRepository.Proofs.Chunk.Rearrangement
import ModelRepository.Proofs.Chunk.Equivalence
import ModelRepository.Proofs.Index.CanonicalForms
import ModelRepository.Proofs.Repository.Rearrangement
import ModelRepository.Proofs.Server.Announcements
import ModelRepository.Proofs.Server.Watching
import ModelRepository.Proofs.Index.Locality
import ModelRepository.Proofs.Repository.Independence
import ModelRepository.Proofs.Repository.Resubmission
import ModelRepository.Proofs.Retrieval.Closure
import ModelRepository.Proofs.Server.Restoration
import ModelRepository.Proofs.Repository.Allocation
import ModelRepository.Proofs.Server.Numbering
import ModelRepository.Proofs.Chunk.Admission
import ModelRepository.Proofs.Retrieval.Completeness
import ModelRepository.Proofs.Binary.Delimiting
import ModelRepository.Proofs.Binary.Truncation
import ModelRepository.Proofs.Binary.Compactness
import ModelRepository.Proofs.Repository.Snapshot
import ModelRepository.Proofs.Storage.Reencoding
import ModelRepository.Proofs.Chunk.Languages
import ModelRepository.Proofs.Interchange.RoundTrip
import ModelRepository.Proofs.Repository.Deletion
import ModelRepository.Proofs.Inspection.Layers
import ModelRepository.Proofs.Inspection.Survey
import ModelRepository.Proofs.Repository.Admission
import ModelRepository.Proofs.Audit.Cycles
import ModelRepository.Proofs.Retrieval.BreadthFirst
import ModelRepository.Proofs.Server.Limits
import ModelRepository.Proofs.Ordering
import ModelRepository.Proofs.Digest.Checksum
import ModelRepository.Proofs.Chunk.Damage
