import SchemaCodegen.Metadata.Format
import SchemaCodegen.Output.Writer

/-!
# Run reports

What became of the artifacts that a run attempted, table by table, and the report on the run as a
whole.
-/

namespace SchemaCodegen

/-- How the attempt to generate an artifact ended. -/
inductive ArtifactResult where
  | written (written : Output.Written)
  /-- The target is a protected file. -/
  | skipped (path : Path)
  | failed (failure : Failure)
deriving DecidableEq

namespace ArtifactResult

def outcome : ArtifactResult → GenerationOutcome
  | .written _ => .written
  | .skipped _ => .skippedProtected
  | .failed _ => .failed

def written? : ArtifactResult → Option Output.Written
  | .written w => some w
  | _ => none

def skipped? : ArtifactResult → Option Path
  | .skipped path => some path
  | _ => none

def failure? : ArtifactResult → Option Failure
  | .failed failure => some failure
  | _ => none

end ArtifactResult

/-- An attempt and its record in the history. -/
structure Attempt where
  record : HistoryRecord
  result : ArtifactResult
deriving DecidableEq

/-- What became of a table: the attempts that were made, and why it was given up if it was. -/
structure TableRun where
  plan : TablePlan
  attempts : List Attempt
  failure : Option Failure
deriving DecidableEq

structure TableFailure where
  tableName : String
  code : String
  error : String
deriving DecidableEq, Repr

namespace TableRun

def isGenerated (r : TableRun) : Bool :=
  r.failure.isNone

/-- The natural key of the table. -/
def key (r : TableRun) : String :=
  tableKey r.plan.schemaName r.plan.tableName

def report? (r : TableRun) : Option TableFailure :=
  r.failure.map fun failure => ⟨r.plan.tableName, failure.code, failure.message⟩

/-- The records of all attempts on tables. -/
def history (runs : List TableRun) : List HistoryRecord :=
  runs.flatMap fun r => r.attempts.map (·.record)

def generatedKeys (runs : List TableRun) : List String :=
  (runs.filter isGenerated).map key

end TableRun

/-- The report on a run. -/
structure RunReport where
  startedAt : Instant
  completedAt : Instant
  sync : SyncResult
  tablesPlanned : Nat
  tablesGenerated : List String
  /-- What was written for the tables that were generated. -/
  filesWritten : List Output.Written
  skippedProtected : List Path
  failures : List TableFailure
  history : List HistoryRecord
deriving DecidableEq

namespace RunReport

/-- The report on the tables of a run. Files of tables that were given up are not listed. -/
def of (startedAt completedAt : Instant) (sync : SyncResult) (runs : List TableRun) :
    RunReport :=
  let generated := runs.filter TableRun.isGenerated
  { startedAt := startedAt
    completedAt := completedAt
    sync := sync
    tablesPlanned := runs.length
    tablesGenerated := generated.map (·.plan.tableName)
    filesWritten := generated.flatMap fun r => r.attempts.filterMap (·.result.written?)
    skippedProtected := generated.flatMap fun r => r.attempts.filterMap (·.result.skipped?)
    failures := runs.filterMap TableRun.report?
    history := TableRun.history runs }

def isSuccess (r : RunReport) : Bool :=
  r.failures.isEmpty

def toJson (r : RunReport) : Json :=
  .object
    [("startedAt", r.startedAt.toJson), ("completedAt", r.completedAt.toJson),
     ("sync", r.sync.toJson), ("tablesPlanned", Json.ofNat r.tablesPlanned),
     ("tablesGenerated", Json.ofTexts r.tablesGenerated),
     ("filesWritten", Json.ofList Output.Written.toJson r.filesWritten),
     ("skippedProtected", Json.ofTexts (r.skippedProtected.map (·.text))),
     ("failures", Json.ofList (fun f => .object
       [("tableName", .text f.tableName), ("code", .text f.code), ("error", .text f.error)])
       r.failures),
     ("history", Json.ofList HistoryRecord.toJson r.history)]

end RunReport

end SchemaCodegen
