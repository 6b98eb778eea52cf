import SchemaCodegen.Metadata.Basic

/-!
# Generation plans

A sync's result turned into a decision for each active table: regenerate it or leave it, and why.
-/

namespace SchemaCodegen

inductive PlanReason where
  | newTable
  | schemaChanged
  | neverGenerated
  | forced
  | noChanges
  | generationDisabled
deriving DecidableEq, Repr, Inhabited

namespace PlanReason

def description : PlanReason → String
  | .newTable => "New table"
  | .schemaChanged => "Schema changed"
  | .neverGenerated => "Never generated"
  | .forced => "Regeneration forced"
  | .noChanges => "No changes detected"
  | .generationDisabled => "Generation disabled for table"

/-- Whether a table with this reason is generated. -/
def requiresGeneration : PlanReason → Bool
  | .noChanges | .generationDisabled => false
  | _ => true

end PlanReason

structure TablePlan where
  tableName : String
  schemaName : String
  isNew : Bool
  hasSchemaChanged : Bool
  requiresGeneration : Bool
  reason : PlanReason
  currentHash : String
  previousHash : Option String
  flags : GenerationFlags
deriving DecidableEq

structure GenerationPlan where
  createdAt : Instant
  tables : List TablePlan
deriving DecidableEq

namespace GenerationPlan

/-- Why a table is or is not generated; the first reason that holds counts. -/
def reasonFor (r : TableRecord) (isNew hasSchemaChanged includeUnchanged : Bool) : PlanReason :=
  if !r.flags.any then .generationDisabled
  else if isNew then .newTable
  else if hasSchemaChanged then .schemaChanged
  else if r.lastGenerated.isNone then .neverGenerated
  else if includeUnchanged then .forced
  else .noChanges

/-- The entry of one table. The sync's result knows tables by their bare names. -/
def entry (sync : SyncResult) (includeUnchanged : Bool) (r : TableRecord) : TablePlan :=
  let isNew := sync.newTables.contains r.tableName
  let hasSchemaChanged := isNew || sync.modifiedTables.contains r.tableName
  let reason := reasonFor r isNew hasSchemaChanged includeUnchanged
  { tableName := r.tableName
    schemaName := r.schemaName
    isNew := isNew
    hasSchemaChanged := hasSchemaChanged
    requiresGeneration := reason.requiresGeneration
    reason := reason
    currentHash := r.hash.current
    previousHash := r.hash.previous
    flags := r.flags }

/-- One entry for each active table, in the order of natural keys. -/
def build (m : Metadata) (sync : SyncResult) (includeUnchanged : Bool) (now : Instant) :
    GenerationPlan :=
  ⟨now, m.activeTables.map (entry sync includeUnchanged)⟩

def toGenerate (p : GenerationPlan) : List TablePlan :=
  p.tables.filter (·.requiresGeneration)

def unchangedCount (p : GenerationPlan) : Nat :=
  p.tables.length - p.toGenerate.length

end GenerationPlan

end SchemaCodegen
