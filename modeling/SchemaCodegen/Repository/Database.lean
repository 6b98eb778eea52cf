import SchemaCodegen.Database.Statement
import SchemaCodegen.Repository.Basic

/-!
# The repository in a database

Metadata in the tables of a relational database. Every change is one transaction, so a change of
which a statement fails is undone.
-/

namespace SchemaCodegen.Repository.Database

open SchemaCodegen.Database

/-- Makes the tables ready for use. -/
def connect : Work Unit :=
  execute .createTables

/-! ## Loading -/

/-- Records by their natural keys; of several with one key the last counts. -/
def fileBy {α : Type} (key : α → String) (records : List α) : Filed α :=
  records.foldl (fun filed r => filed.insert (key r) r) ∅

/-- The records of index rows. The first row with an identity gets the columns that belong to it. -/
def assembleIndexes : List IndexColumnRow → List IndexRow → List IndexRecord
  | _, [] => []
  | columns, row :: rows =>
    let (own, others) := columns.partition fun c => c.indexId = row.id
    row.record (own.map IndexColumnRow.record) :: assembleIndexes others rows

def load : Work Metadata := do
  let tables ← execute .selectTables
  let columns ← execute .selectColumns
  let indexColumns ← execute .selectIndexColumns
  let indexes ← execute .selectIndexes
  let relationships ← execute .selectRelationships
  return {
    tables := fileBy TableRecord.naturalKey (List.map TableRow.record tables)
    columns := fileBy ColumnRecord.naturalKey (List.map ColumnRow.record columns)
    indexes := fileBy IndexRecord.naturalKey (assembleIndexes indexColumns indexes)
    relationships :=
      fileBy RelationshipRecord.naturalKey (List.map RelationshipRow.record relationships) }

/-! ## Changing -/

/-- An index, and its columns in place of those that it had. -/
def persistIndex (r : IndexRecord) : Work Unit := do
  execute (.upsertIndex (.ofRecord r))
  execute (.deleteIndexColumns r.id)
  r.columns.forM fun c => execute (.insertIndexColumn (.ofRecord r.id c))

/-- All records in the order of their keys, tables before what refers to them. -/
def persist (m : Metadata) : Work Unit :=
  inTransaction do
    m.tables.toList.forM fun (_, r) => execute (.upsertTable (.ofRecord r))
    m.columns.toList.forM fun (_, r) => execute (.upsertColumn (.ofRecord r))
    m.indexes.toList.forM fun (_, r) => persistIndex r
    m.relationships.toList.forM fun (_, r) => execute (.upsertRelationship (.ofRecord r))

/-- The keys in ascending order, each of them once. -/
def distinctKeys (keys : List String) : List String :=
  (Std.ExtTreeMap.ofList (keys.map fun key => (key, ()))).keys

/-- The failure when fewer tables were stamped than there are keys. -/
def unknownKeys (count updated : UInt64) : Failure :=
  .notFound ("Table metadata for " ++ toString (count - updated) ++ " of " ++ toString count ++
    " keys")

/-- Stamps tables; if a key is not stored, none of them. -/
def markGenerated (keys : List String) (time : Instant) : Work Unit :=
  inTransaction do
    let keys := distinctKeys keys
    let count := UInt64.ofNat keys.length
    let updated : UInt64 ← execute (.stampTables time.toMicroseconds keys)
    if updated ≠ count then throw (unknownKeys count updated)

def recordHistory (records : List HistoryRecord) : Work Unit :=
  inTransaction (records.forM fun r => execute (.insertHistory (.ofRecord r)))

/-- The history in the order in which the database gives it. -/
def history (table : Option String) : Work (List HistoryRecord) := do
  let rows ← execute (.selectHistory table)
  return List.map HistoryRow.record rows

def answer : (call : Call) → Script database (Reply call)
  | .load => load.run
  | .persist metadata => (persist metadata).run
  | .markGenerated keys time => (markGenerated keys time).run
  | .recordHistory records => (recordHistory records).run
  | .history table => (history table).run

end SchemaCodegen.Repository.Database
