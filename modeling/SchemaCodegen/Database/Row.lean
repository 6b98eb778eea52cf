import SchemaCodegen.Database.Cell
import SchemaCodegen.Metadata.History
import SchemaCodegen.Snapshot.Format

/-!
# Rows of the metadata tables

How metadata is laid out in a relational database: one table for each kind of record, and one for
the columns of indexes. `cells` lists the values of a row in the order of its table's columns, and
`columns` reads them back.
-/

namespace SchemaCodegen.Database

structure TableRow where
  id : Uuid
  naturalKey : String
  tableName : String
  schemaName : String
  hash : String
  previousHash : Option String
  isActive : Bool
  lastGenerated : Option Instant
  lastSynced : Instant
  generateEntity : Bool
  generateRepository : Bool
  generateController : Bool
  generateReactUi : Bool
  generateStoredProcedures : Bool
  generateCqrs : Bool
deriving DecidableEq

structure ColumnRow where
  id : Uuid
  tableId : Uuid
  naturalKey : String
  columnName : String
  dataType : String
  maxLength : Option Int32
  precision : Option Int32
  scale : Option Int32
  isNullable : Bool
  isPrimaryKey : Bool
  isIdentity : Bool
  isComputed : Bool
  isForeignKey : Bool
  referencedTable : Option String
  referencedColumn : Option String
  /-- The code of the column's convention, or `NONE`. -/
  convention : String
  hash : String
  previousHash : Option String
  isActive : Bool
deriving DecidableEq

structure IndexRow where
  id : Uuid
  tableId : Uuid
  naturalKey : String
  indexName : String
  isUnique : Bool
  isClustered : Bool
  hash : String
  previousHash : Option String
  isActive : Bool
deriving DecidableEq

structure IndexColumnRow where
  indexId : Uuid
  columnName : String
  keyOrdinal : Int32
  isDescending : Bool
  isIncluded : Bool
deriving DecidableEq

structure RelationshipRow where
  id : Uuid
  naturalKey : String
  foreignKeyName : String
  parentTable : String
  parentColumn : String
  childTable : String
  childColumn : String
  cardinality : String
  onDelete : String
  onUpdate : String
  hash : String
  previousHash : Option String
  isActive : Bool
deriving DecidableEq

structure HistoryRow where
  id : Uuid
  schemaName : String
  tableName : String
  artifact : String
  outputPath : String
  outcome : String
  error : Option String
  generatedAt : Instant
deriving DecidableEq

/-! ## Values of rows -/

def TableRow.cells (r : TableRow) : List Cell :=
  [.id r.id, .text r.naturalKey, .text r.tableName, .text r.schemaName, .text r.hash,
   .ofOption .text r.previousHash, .bool r.isActive, .ofOption .time r.lastGenerated,
   .time r.lastSynced, .bool r.generateEntity, .bool r.generateRepository,
   .bool r.generateController, .bool r.generateReactUi, .bool r.generateStoredProcedures,
   .bool r.generateCqrs]

def ColumnRow.cells (r : ColumnRow) : List Cell :=
  [.id r.id, .id r.tableId, .text r.naturalKey, .text r.columnName, .text r.dataType,
   .ofOption .integer r.maxLength, .ofOption .integer r.precision, .ofOption .integer r.scale,
   .bool r.isNullable, .bool r.isPrimaryKey, .bool r.isIdentity, .bool r.isComputed,
   .bool r.isForeignKey, .ofOption .text r.referencedTable, .ofOption .text r.referencedColumn,
   .text r.convention, .text r.hash, .ofOption .text r.previousHash, .bool r.isActive]

def IndexRow.cells (r : IndexRow) : List Cell :=
  [.id r.id, .id r.tableId, .text r.naturalKey, .text r.indexName, .bool r.isUnique,
   .bool r.isClustered, .text r.hash, .ofOption .text r.previousHash, .bool r.isActive]

def IndexColumnRow.cells (r : IndexColumnRow) : List Cell :=
  [.id r.indexId, .text r.columnName, .integer r.keyOrdinal, .bool r.isDescending,
   .bool r.isIncluded]

def RelationshipRow.cells (r : RelationshipRow) : List Cell :=
  [.id r.id, .text r.naturalKey, .text r.foreignKeyName, .text r.parentTable,
   .text r.parentColumn, .text r.childTable, .text r.childColumn, .text r.cardinality,
   .text r.onDelete, .text r.onUpdate, .text r.hash, .ofOption .text r.previousHash,
   .bool r.isActive]

def HistoryRow.cells (r : HistoryRow) : List Cell :=
  [.id r.id, .text r.schemaName, .text r.tableName, .text r.artifact, .text r.outputPath,
   .text r.outcome, .ofOption .text r.error, .time r.generatedAt]

/-! ## Reading rows -/

def TableRow.columns : Columns TableRow :=
  TableRow.mk <$> .id "id" <*> .text "natural_key" <*> .text "table_name" <*> .text "schema_name"
    <*> .text "schema_hash" <*> .nullable (.text "schema_hash_previous") <*> .bool "is_active"
    <*> .nullable (.time "last_generated") <*> .time "last_synced" <*> .bool "generate_entity"
    <*> .bool "generate_repository" <*> .bool "generate_controller" <*> .bool "generate_react_ui"
    <*> .bool "generate_stored_procedures" <*> .bool "generate_cqrs"

def ColumnRow.columns : Columns ColumnRow :=
  ColumnRow.mk <$> .id "id" <*> .id "table_id" <*> .text "natural_key" <*> .text "column_name"
    <*> .text "data_type" <*> .nullable (.integer "max_length")
    <*> .nullable (.integer "precision") <*> .nullable (.integer "scale") <*> .bool "is_nullable"
    <*> .bool "is_primary_key" <*> .bool "is_identity" <*> .bool "is_computed"
    <*> .bool "is_foreign_key" <*> .nullable (.text "referenced_table")
    <*> .nullable (.text "referenced_column") <*> .text "prefix" <*> .text "column_hash"
    <*> .nullable (.text "column_hash_previous") <*> .bool "is_active"

def IndexRow.columns : Columns IndexRow :=
  IndexRow.mk <$> .id "id" <*> .id "table_id" <*> .text "natural_key" <*> .text "index_name"
    <*> .bool "is_unique" <*> .bool "is_clustered" <*> .text "index_hash"
    <*> .nullable (.text "index_hash_previous") <*> .bool "is_active"

def IndexColumnRow.columns : Columns IndexColumnRow :=
  IndexColumnRow.mk <$> .id "index_id" <*> .text "column_name" <*> .integer "key_ordinal"
    <*> .bool "is_descending" <*> .bool "is_included"

def RelationshipRow.columns : Columns RelationshipRow :=
  RelationshipRow.mk <$> .id "id" <*> .text "natural_key" <*> .text "foreign_key_name"
    <*> .text "parent_table" <*> .text "parent_column" <*> .text "child_table"
    <*> .text "child_column" <*> .text "relationship_type" <*> .text "on_delete"
    <*> .text "on_update" <*> .text "relationship_hash"
    <*> .nullable (.text "relationship_hash_previous") <*> .bool "is_active"

def HistoryRow.columns : Columns HistoryRow :=
  HistoryRow.mk <$> .id "id" <*> .text "schema_name" <*> .text "table_name" <*> .text "artifact"
    <*> .text "output_path" <*> .text "outcome" <*> .nullable (.text "error")
    <*> .time "generated_at"

/-! ## Rows of records -/

def TableRow.ofRecord (r : TableRecord) : TableRow where
  id := r.id
  naturalKey := r.naturalKey
  tableName := r.tableName
  schemaName := r.schemaName
  hash := r.hash.current
  previousHash := r.hash.previous
  isActive := r.isActive
  lastGenerated := r.lastGenerated.map Instant.toMicroseconds
  lastSynced := r.lastSynced.toMicroseconds
  generateEntity := r.flags.entity
  generateRepository := r.flags.repository
  generateController := r.flags.controller
  generateReactUi := r.flags.reactUi
  generateStoredProcedures := r.flags.storedProcedures
  generateCqrs := r.flags.cqrs

def TableRow.record (r : TableRow) : TableRecord where
  id := r.id
  naturalKey := r.naturalKey
  tableName := r.tableName
  schemaName := r.schemaName
  hash := ⟨r.hash, r.previousHash⟩
  isActive := r.isActive
  lastGenerated := r.lastGenerated
  lastSynced := r.lastSynced
  flags := ⟨r.generateEntity, r.generateRepository, r.generateController, r.generateReactUi,
    r.generateStoredProcedures, r.generateCqrs⟩

def ColumnRow.ofRecord (r : ColumnRecord) : ColumnRow where
  id := r.id
  tableId := r.tableId
  naturalKey := r.naturalKey
  columnName := r.columnName
  dataType := r.dataType
  maxLength := r.maxLength
  precision := r.precision
  scale := r.scale
  isNullable := r.isNullable
  isPrimaryKey := r.isPrimaryKey
  isIdentity := r.isIdentity
  isComputed := r.isComputed
  isForeignKey := r.isForeignKey
  referencedTable := r.referencedTable
  referencedColumn := r.referencedColumn
  convention := r.convention.display
  hash := r.hash.current
  previousHash := r.hash.previous
  isActive := r.isActive

/-- The record of a row; text that is no code reads as no convention. -/
def ColumnRow.record (r : ColumnRow) : ColumnRecord where
  id := r.id
  tableId := r.tableId
  naturalKey := r.naturalKey
  columnName := r.columnName
  dataType := r.dataType
  maxLength := r.maxLength
  precision := r.precision
  scale := r.scale
  isNullable := r.isNullable
  isPrimaryKey := r.isPrimaryKey
  isIdentity := r.isIdentity
  isComputed := r.isComputed
  isForeignKey := r.isForeignKey
  referencedTable := r.referencedTable
  referencedColumn := r.referencedColumn
  convention := (Convention.ofText? r.convention).getD .none
  hash := ⟨r.hash, r.previousHash⟩
  isActive := r.isActive

def IndexRow.ofRecord (r : IndexRecord) : IndexRow where
  id := r.id
  tableId := r.tableId
  naturalKey := r.naturalKey
  indexName := r.indexName
  isUnique := r.isUnique
  isClustered := r.isClustered
  hash := r.hash.current
  previousHash := r.hash.previous
  isActive := r.isActive

/-- The record of a row whose columns are known. -/
def IndexRow.record (columns : List IndexColumnRecord) (r : IndexRow) : IndexRecord where
  id := r.id
  tableId := r.tableId
  naturalKey := r.naturalKey
  indexName := r.indexName
  isUnique := r.isUnique
  isClustered := r.isClustered
  columns := columns
  hash := ⟨r.hash, r.previousHash⟩
  isActive := r.isActive

def IndexColumnRow.ofRecord (indexId : Uuid) (r : IndexColumnRecord) : IndexColumnRow :=
  ⟨indexId, r.columnName, r.keyOrdinal, r.isDescending, r.isIncluded⟩

def IndexColumnRow.record (r : IndexColumnRow) : IndexColumnRecord :=
  ⟨r.columnName, r.keyOrdinal, r.isDescending, r.isIncluded⟩

def RelationshipRow.ofRecord (r : RelationshipRecord) : RelationshipRow where
  id := r.id
  naturalKey := r.naturalKey
  foreignKeyName := r.foreignKeyName
  parentTable := r.parentTable
  parentColumn := r.parentColumn
  childTable := r.childTable
  childColumn := r.childColumn
  cardinality := r.cardinality.name
  onDelete := r.onDelete
  onUpdate := r.onUpdate
  hash := r.hash.current
  previousHash := r.hash.previous
  isActive := r.isActive

def RelationshipRow.record (r : RelationshipRow) : RelationshipRecord where
  id := r.id
  naturalKey := r.naturalKey
  foreignKeyName := r.foreignKeyName
  parentTable := r.parentTable
  parentColumn := r.parentColumn
  childTable := r.childTable
  childColumn := r.childColumn
  cardinality := Cardinality.ofName r.cardinality
  onDelete := r.onDelete
  onUpdate := r.onUpdate
  hash := ⟨r.hash, r.previousHash⟩
  isActive := r.isActive

def HistoryRow.ofRecord (r : HistoryRecord) : HistoryRow :=
  ⟨r.id, r.schemaName, r.tableName, r.artifact, r.outputPath, r.outcome.name, r.error,
    r.generatedAt.toMicroseconds⟩

def HistoryRow.record (r : HistoryRow) : HistoryRecord :=
  ⟨r.id, r.schemaName, r.tableName, r.artifact, r.outputPath, GenerationOutcome.ofName r.outcome,
    r.error, r.generatedAt⟩

end SchemaCodegen.Database
