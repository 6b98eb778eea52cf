import SchemaCodegen.Metadata.Basic

/-!
# Generation history

One record for each artifact that a run attempted: where it went and how it ended.
-/

namespace SchemaCodegen

inductive GenerationOutcome where
  | written
  | skippedProtected
  | failed
deriving DecidableEq, Repr, Inhabited

namespace GenerationOutcome

def name : GenerationOutcome → String
  | .written => "written"
  | .skippedProtected => "skippedProtected"
  | .failed => "failed"

/-- Text that is no name reads as a failure. -/
def ofName (s : String) : GenerationOutcome :=
  if s = "written" then .written
  else if s = "skippedProtected" then .skippedProtected
  else .failed

end GenerationOutcome

structure HistoryRecord where
  id : Uuid
  schemaName : String
  tableName : String
  /-- The name of the artifact's template. -/
  artifact : String
  outputPath : String
  outcome : GenerationOutcome
  error : Option String
  generatedAt : Instant
deriving DecidableEq, Repr

namespace HistoryRecord

/-- The records of a table, or all, the newest first; records of one time stay in order. -/
def select (records : List HistoryRecord) (table : Option String) : List HistoryRecord :=
  let chosen := records.filter fun r => table.all (r.tableName == ·)
  chosen.mergeSort fun a b => !a.generatedAt.isBefore b.generatedAt

end HistoryRecord

end SchemaCodegen
