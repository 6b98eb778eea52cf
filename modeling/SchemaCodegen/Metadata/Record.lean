import SchemaCodegen.Machine
import SchemaCodegen.Metadata.HashPair
import SchemaCodegen.Snapshot.Basic

/-!
# Metadata records

One record for each table, column, index and relationship that was ever seen. A record has an
identity, the natural key it is filed under, what the snapshot says of the entity, and the
entity's hash history.
-/

namespace SchemaCodegen

/-- Which families of artifacts are generated for a table. -/
structure GenerationFlags where
  entity : Bool
  repository : Bool
  controller : Bool
  reactUi : Bool
  storedProcedures : Bool
  cqrs : Bool
deriving DecidableEq, Repr

namespace GenerationFlags

/-- All families but the user interface. -/
def standard : GenerationFlags :=
  ⟨true, true, true, false, true, true⟩

def any (f : GenerationFlags) : Bool :=
  f.entity || f.repository || f.controller || f.reactUi || f.storedProcedures || f.cqrs

end GenerationFlags

structure TableRecord where
  id : Uuid
  naturalKey : String
  tableName : String
  schemaName : String
  hash : HashPair
  isActive : Bool
  lastGenerated : Option Instant
  lastSynced : Instant
  flags : GenerationFlags
deriving DecidableEq

structure ColumnRecord where
  id : Uuid
  tableId : Uuid
  naturalKey : String
  columnName : String
  dataType : String
  maxLength : Option Int32
  precision : Option Int32
  scale : Option Int32
  isNullable : Bool
  isPrimaryKey : Bool
  isIdentity : Bool
  isComputed : Bool
  isForeignKey : Bool
  referencedTable : Option String
  referencedColumn : Option String
  convention : Convention
  hash : HashPair
  isActive : Bool
deriving DecidableEq

structure IndexColumnRecord where
  columnName : String
  /-- The place in the index from 1 on; included columns follow the key columns. -/
  keyOrdinal : Int32
  isDescending : Bool
  isIncluded : Bool
deriving DecidableEq

structure IndexRecord where
  id : Uuid
  tableId : Uuid
  naturalKey : String
  indexName : String
  isUnique : Bool
  isClustered : Bool
  columns : List IndexColumnRecord
  hash : HashPair
  isActive : Bool
deriving DecidableEq

structure RelationshipRecord where
  id : Uuid
  naturalKey : String
  foreignKeyName : String
  parentTable : String
  parentColumn : String
  childTable : String
  childColumn : String
  cardinality : Cardinality
  onDelete : String
  onUpdate : String
  hash : HashPair
  isActive : Bool
deriving DecidableEq

/-! ## Natural keys -/

def tableKey (schema table : String) : String :=
  schema ++ "." ++ table

/-- The natural key of a column or an index of a table. -/
def partKey (schema table part : String) : String :=
  schema ++ "." ++ table ++ "." ++ part

def columnKey (t : Table) (c : Column) : String :=
  partKey t.schemaName t.name c.name

def indexKey (t : Table) (i : Index) : String :=
  partKey t.schemaName t.name i.name

namespace Snapshot

/-- The keys of all records that a snapshot asks for. -/
def recordKeys (s : Snapshot) : List RecordKey :=
  s.tables.flatMap (fun t =>
    ⟨.table, t.qualifiedName⟩ :: t.columns.map (fun c => ⟨.column, columnKey t c⟩) ++
      t.indexes.map (fun i => ⟨.index, indexKey t i⟩)) ++
    s.relationships.map fun r => ⟨.relationship, r.key⟩

end Snapshot

/-! ## Filling records from entities -/

namespace ColumnRecord

/-- The record with what the snapshot says of the column. -/
def fill (r : ColumnRecord) (c : Column) : ColumnRecord :=
  { r with
    dataType := c.dataType, maxLength := c.maxLength, precision := c.precision, scale := c.scale,
    isNullable := c.isNullable, isPrimaryKey := c.isPrimaryKey, isIdentity := c.isIdentity,
    isComputed := c.isComputed, isForeignKey := c.isForeignKey,
    referencedTable := c.referencedTable, referencedColumn := c.referencedColumn,
    convention := c.convention }

def create (id tableId : Uuid) (key hash : String) (c : Column) : ColumnRecord where
  id := id
  tableId := tableId
  naturalKey := key
  columnName := c.name
  dataType := c.dataType
  maxLength := c.maxLength
  precision := c.precision
  scale := c.scale
  isNullable := c.isNullable
  isPrimaryKey := c.isPrimaryKey
  isIdentity := c.isIdentity
  isComputed := c.isComputed
  isForeignKey := c.isForeignKey
  referencedTable := c.referencedTable
  referencedColumn := c.referencedColumn
  convention := c.convention
  hash := .first hash
  isActive := true

/-- The record of a column that is seen again. -/
def refresh (r : ColumnRecord) (tableId : Uuid) (hash : String) (c : Column) : ColumnRecord :=
  { r with hash := r.hash.rotate hash, tableId := tableId, isActive := true }.fill c

end ColumnRecord

namespace IndexRecord

/-- The columns of an index: the key columns, then the included ones. -/
def columnsOf (i : Index) : List IndexColumnRecord :=
  let named := i.columns.map (·, false) ++ (i.includedColumns.getD []).map (·, true)
  named.zipIdx.map fun ((name, isIncluded), place) =>
    ⟨name, Int32.ofNat (place + 1), i.descendingColumns.contains name, isIncluded⟩

def create (id tableId : Uuid) (key hash : String) (i : Index) : IndexRecord :=
  ⟨id, tableId, key, i.name, i.isUnique, i.isClustered, columnsOf i, .first hash, true⟩

def refresh (r : IndexRecord) (tableId : Uuid) (hash : String) (i : Index) : IndexRecord :=
  { r with
    hash := r.hash.rotate hash, tableId := tableId, isActive := true, isUnique := i.isUnique,
    isClustered := i.isClustered, columns := columnsOf i }

end IndexRecord

namespace RelationshipRecord

def create (id : Uuid) (hash : String) (r : Relationship) : RelationshipRecord :=
  ⟨id, r.key, r.foreignKeyName, r.parentTable, r.parentColumn, r.childTable, r.childColumn,
    r.cardinality, r.onDelete, r.onUpdate, .first hash, true⟩

def refresh (rec : RelationshipRecord) (hash : String) (r : Relationship) : RelationshipRecord :=
  { rec with
    hash := rec.hash.rotate hash, isActive := true, foreignKeyName := r.foreignKeyName,
    cardinality := r.cardinality, onDelete := r.onDelete, onUpdate := r.onUpdate }

end RelationshipRecord

namespace TableRecord

def create (id : Uuid) (hash : String) (now : Instant) (t : Table) : TableRecord :=
  ⟨id, t.qualifiedName, t.name, t.schemaName, .first hash, true, none, now, .standard⟩

def refresh (r : TableRecord) (hash : String) (now : Instant) : TableRecord :=
  { r with hash := r.hash.rotate hash, isActive := true, lastSynced := now }

end TableRecord

end SchemaCodegen
