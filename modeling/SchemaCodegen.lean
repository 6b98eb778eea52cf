import SchemaCodegen.Catalog.Assembly
import SchemaCodegen.Catalog.Introspection
import SchemaCodegen.Catalog.Query
import SchemaCodegen.Change.Basic
import SchemaCodegen.Change.Format
import SchemaCodegen.Convention.Basic
import SchemaCodegen.Convention.Resolver
import SchemaCodegen.Database.Cell
import SchemaCodegen.Database.Row
import SchemaCodegen.Database.Statement
import SchemaCodegen.Decimal.Shortest
import SchemaCodegen.Digest
import SchemaCodegen.Disk.Basic
import SchemaCodegen.Disk.Path
import SchemaCodegen.Failure
import SchemaCodegen.Fingerprint
import SchemaCodegen.Generation.Context
import SchemaCodegen.Generation.Report
import SchemaCodegen.Generation.Run
import SchemaCodegen.Generation.Workplace
import SchemaCodegen.Instant
import SchemaCodegen.Json.Basic
import SchemaCodegen.Json.Decoder
import SchemaCodegen.Json.Printer
import SchemaCodegen.Json.Reader
import SchemaCodegen.Json.Text
import SchemaCodegen.Machine
import SchemaCodegen.Metadata.Basic
import SchemaCodegen.Metadata.Bookkeeping
import SchemaCodegen.Metadata.Format
import SchemaCodegen.Metadata.HashPair
import SchemaCodegen.Metadata.History
import SchemaCodegen.Metadata.Plan
import SchemaCodegen.Metadata.Record
import SchemaCodegen.Output.Lock
import SchemaCodegen.Output.Protection
import SchemaCodegen.Output.Writer
import SchemaCodegen.Procedure
import SchemaCodegen.Proofs.Catalog.ForeignKeys
import SchemaCodegen.Proofs.Catalog.Indexes
import SchemaCodegen.Proofs.Change.Agreement
import SchemaCodegen.Proofs.Change.Exactness
import SchemaCodegen.Proofs.Change.Reversal
import SchemaCodegen.Proofs.Convention.Agreement
import SchemaCodegen.Proofs.Convention.Comments
import SchemaCodegen.Proofs.Database.Rows
import SchemaCodegen.Proofs.Disk.Descent
import SchemaCodegen.Proofs.Disk.Directories
import SchemaCodegen.Proofs.Disk.Entries
import SchemaCodegen.Proofs.Disk.Missing
import SchemaCodegen.Proofs.Disk.Neighbours
import SchemaCodegen.Proofs.Disk.Parents
import SchemaCodegen.Proofs.Disk.Paths
import SchemaCodegen.Proofs.Disk.Resolution
import SchemaCodegen.Proofs.Fingerprint.Shape
import SchemaCodegen.Proofs.Generation.Accounts
import SchemaCodegen.Proofs.Generation.Attempts
import SchemaCodegen.Proofs.Generation.Confinement
import SchemaCodegen.Proofs.Generation.Families
import SchemaCodegen.Proofs.Generation.Listing
import SchemaCodegen.Proofs.Generation.Planning
import SchemaCodegen.Proofs.Generation.Relatives
import SchemaCodegen.Proofs.Generation.Rerun
import SchemaCodegen.Proofs.Generation.Site
import SchemaCodegen.Proofs.Generation.Skipping
import SchemaCodegen.Proofs.Generation.Staleness
import SchemaCodegen.Proofs.Generation.Works
import SchemaCodegen.Proofs.Instant.RoundTrip
import SchemaCodegen.Proofs.Json.Decoding
import SchemaCodegen.Proofs.Json.Reading
import SchemaCodegen.Proofs.Metadata.Digests
import SchemaCodegen.Proofs.Metadata.Distinctness
import SchemaCodegen.Proofs.Metadata.Filing
import SchemaCodegen.Proofs.Metadata.Frame
import SchemaCodegen.Proofs.Metadata.Identity
import SchemaCodegen.Proofs.Metadata.Lineage
import SchemaCodegen.Proofs.Metadata.Mirror
import SchemaCodegen.Proofs.Metadata.Ownership
import SchemaCodegen.Proofs.Metadata.Parts
import SchemaCodegen.Proofs.Metadata.Rearranging
import SchemaCodegen.Proofs.Metadata.Renaming
import SchemaCodegen.Proofs.Metadata.Reporting
import SchemaCodegen.Proofs.Metadata.Resync
import SchemaCodegen.Proofs.Metadata.RoundTrip
import SchemaCodegen.Proofs.Metadata.Settling
import SchemaCodegen.Proofs.Metadata.Stamps
import SchemaCodegen.Proofs.Metadata.Tables
import SchemaCodegen.Proofs.Metadata.Timeliness
import SchemaCodegen.Proofs.Output.Anchor
import SchemaCodegen.Proofs.Output.Crowd
import SchemaCodegen.Proofs.Output.Faults
import SchemaCodegen.Proofs.Output.Leasing
import SchemaCodegen.Proofs.Output.Leftovers
import SchemaCodegen.Proofs.Output.Pool
import SchemaCodegen.Proofs.Output.Preservation
import SchemaCodegen.Proofs.Output.Protection
import SchemaCodegen.Proofs.Output.Registry
import SchemaCodegen.Proofs.Output.Replacement
import SchemaCodegen.Proofs.Output.Spellings
import SchemaCodegen.Proofs.Output.Turns
import SchemaCodegen.Proofs.Output.Underway
import SchemaCodegen.Proofs.Output.Versions
import SchemaCodegen.Proofs.Output.Workshop
import SchemaCodegen.Proofs.Output.Writing
import SchemaCodegen.Proofs.Repository.Document
import SchemaCodegen.Proofs.Repository.Holding
import SchemaCodegen.Proofs.Repository.Loading
import SchemaCodegen.Proofs.Repository.Marking
import SchemaCodegen.Proofs.Repository.References
import SchemaCodegen.Proofs.Repository.RowStore
import SchemaCodegen.Proofs.Repository.Sessions
import SchemaCodegen.Proofs.Repository.Stamping
import SchemaCodegen.Proofs.Repository.Statements
import SchemaCodegen.Proofs.Repository.Storage
import SchemaCodegen.Proofs.Repository.Tasks
import SchemaCodegen.Proofs.Repository.Transactions
import SchemaCodegen.Proofs.Script.Interleaving
import SchemaCodegen.Proofs.Script.Jobs
import SchemaCodegen.Proofs.Script.Moments
import SchemaCodegen.Proofs.Script.Runs
import SchemaCodegen.Proofs.Settings.MetadataFile
import SchemaCodegen.Proofs.Settings.Patterns
import SchemaCodegen.Proofs.Settings.Stores
import SchemaCodegen.Proofs.Snapshot.Acceptance
import SchemaCodegen.Proofs.Snapshot.Names
import SchemaCodegen.Proofs.Snapshot.Rearranging
import SchemaCodegen.Proofs.Snapshot.RoundTrip
import SchemaCodegen.Proofs.Snapshot.Saving
import SchemaCodegen.Proofs.Template.Admission
import SchemaCodegen.Proofs.Template.Caching
import SchemaCodegen.Proofs.Template.Failures
import SchemaCodegen.Proofs.Template.Filling
import SchemaCodegen.Proofs.Template.Names
import SchemaCodegen.Proofs.Template.Preloading
import SchemaCodegen.Proofs.Template.Sharing
import SchemaCodegen.Proofs.Template.Stages
import SchemaCodegen.Proofs.Template.Walking
import SchemaCodegen.Proofs.Text.Occurrence
import SchemaCodegen.Proofs.Text.Replacing
import SchemaCodegen.Proofs.Text.Splitting
import SchemaCodegen.Proofs.Text.Trimming
import SchemaCodegen.Repository.Basic
import SchemaCodegen.Repository.Database
import SchemaCodegen.Repository.File
import SchemaCodegen.Repository.Memory
import SchemaCodegen.Script
import SchemaCodegen.Settings.ArtifactSpec
import SchemaCodegen.Settings.Basic
import SchemaCodegen.Settings.Fault
import SchemaCodegen.Snapshot.Basic
import SchemaCodegen.Snapshot.Format
import SchemaCodegen.Snapshot.Store
import SchemaCodegen.Template.Cache
import SchemaCodegen.Template.Check
import SchemaCodegen.Template.Engine
import SchemaCodegen.Template.Evaluator
import SchemaCodegen.Template.Filter
import SchemaCodegen.Template.Name
import SchemaCodegen.Template.Operator
import SchemaCodegen.Template.Parser
import SchemaCodegen.Template.Session
import SchemaCodegen.Template.Token
import SchemaCodegen.Template.Tree
import SchemaCodegen.Template.Value
import SchemaCodegen.Text.Blank
import SchemaCodegen.Text.Case
import SchemaCodegen.Text.CaseTable
import SchemaCodegen.Text.Composition
import SchemaCodegen.Text.CompositionTable
import SchemaCodegen.Text.Digit
import SchemaCodegen.Text.Direction
import SchemaCodegen.Text.Folding
import SchemaCodegen.Text.FoldingTable
import SchemaCodegen.Text.Joining
import SchemaCodegen.Text.Mark
import SchemaCodegen.Text.Printable
import SchemaCodegen.Text.Search
import SchemaCodegen.Url.Basic
import SchemaCodegen.Url.Host
import SchemaCodegen.Url.Label
import SchemaCodegen.Url.Punycode
import SchemaCodegen.Uuid
import SchemaCodegen.Proofs.Output.Backups
