import SchemaCodegen.Fingerprint
import SchemaCodegen.Metadata.Record

/-!
# Metadata

All records as one value, filed by natural key, and how a snapshot is synced into it: every
entity's fingerprint is taken, hash histories rotate where it differs, records are created for
what is new and switched off for what is gone. Nothing is ever deleted.
-/

namespace SchemaCodegen

/-- Records filed by natural key. -/
abbrev Filed (α : Type) := Std.ExtTreeMap String α

structure Metadata where
  tables : Filed TableRecord
  columns : Filed ColumnRecord
  indexes : Filed IndexRecord
  relationships : Filed RelationshipRecord
deriving DecidableEq

/-- What one sync changed. -/
structure SyncResult where
  /-- New and modified tables together. -/
  tablesChanged : Nat
  tablesTotal : Nat
  newTables : List String
  modifiedTables : List String
  deactivatedTables : List String
  columnsChanged : Nat
  syncedAt : Instant
deriving DecidableEq, Repr

def SyncResult.isChanged (r : SyncResult) (table : String) : Bool :=
  r.newTables.contains table || r.modifiedTables.contains table

namespace Metadata

def empty : Metadata :=
  ⟨∅, ∅, ∅, ∅⟩

instance : Inhabited Metadata := ⟨empty⟩

/-! ## Syncing the parts of a table -/

/-- The records with one column of a table in it, and whether the column is new or rotated. -/
def syncColumn (fresh : RecordKey → Uuid) (t : Table) (tableId : Uuid)
    (records : Filed ColumnRecord) (c : Column) : Filed ColumnRecord × Bool :=
  let key := columnKey t c
  let hash := Fingerprint.ofColumn c
  match records[key]? with
  | some r => (records.insert key (r.refresh tableId hash c), r.hash.rotates hash)
  | none => (records.insert key (.create (fresh ⟨.column, key⟩) tableId key hash c), true)

/-- Switches off the records of a table whose keys were not seen. -/
def retire {α : Type} (tableOf : α → Uuid) (switchOff : α → α) (tableId : Uuid)
    (seen : List String) (records : Filed α) : Filed α :=
  records.map fun key r => if tableOf r = tableId ∧ key ∉ seen then switchOff r else r

/-- All columns of a table, and how many of them are new or rotated. -/
def syncColumns (fresh : RecordKey → Uuid) (t : Table) (tableId : Uuid)
    (records : Filed ColumnRecord) : Filed ColumnRecord × Nat :=
  let (records, changed) := t.columns.foldl
    (fun (records, changed) c =>
      let (records, isChanged) := syncColumn fresh t tableId records c
      (records, if isChanged then changed + 1 else changed)) (records, 0)
  (retire ColumnRecord.tableId ({ · with isActive := false }) tableId
    (t.columns.map (columnKey t)) records, changed)

def syncIndex (fresh : RecordKey → Uuid) (t : Table) (tableId : Uuid)
    (records : Filed IndexRecord) (i : Index) : Filed IndexRecord :=
  let key := indexKey t i
  let hash := Fingerprint.ofIndex i
  match records[key]? with
  | some r => records.insert key (r.refresh tableId hash i)
  | none => records.insert key (.create (fresh ⟨.index, key⟩) tableId key hash i)

def syncIndexes (fresh : RecordKey → Uuid) (t : Table) (tableId : Uuid)
    (records : Filed IndexRecord) : Filed IndexRecord :=
  retire IndexRecord.tableId ({ · with isActive := false }) tableId (t.indexes.map (indexKey t))
    (t.indexes.foldl (syncIndex fresh t tableId) records)

/-! ## Syncing tables -/

/-- What a sync found out about one table. -/
inductive TableNews where
  | new
  | modified
  | unchanged
deriving DecidableEq, Repr

/-- The table's own record, its identity, and what is new about it. -/
def syncTableRecord (fresh : RecordKey → Uuid) (now : Instant) (records : Filed TableRecord)
    (t : Table) : Filed TableRecord × Uuid × TableNews :=
  let key := t.qualifiedName
  let hash := Fingerprint.ofTable t
  match records[key]? with
  | some r =>
    (records.insert key (r.refresh hash now), r.id,
      if r.hash.rotates hash then .modified else .unchanged)
  | none =>
    let id := fresh ⟨.table, key⟩
    (records.insert key (.create id hash now t), id, .new)

/-- A table with its columns and indexes, what is new about it, and how many columns changed. -/
def syncTable (fresh : RecordKey → Uuid) (now : Instant) (m : Metadata) (t : Table) :
    Metadata × TableNews × Nat :=
  let (tables, id, news) := syncTableRecord fresh now m.tables t
  let (columns, changed) := syncColumns fresh t id m.columns
  ({ m with tables := tables, columns := columns, indexes := syncIndexes fresh t id m.indexes },
    news, changed)

/-- How far a sync has come. -/
structure Progress where
  metadata : Metadata
  newTables : List String
  modifiedTables : List String
  columnsChanged : Nat

def Progress.step (fresh : RecordKey → Uuid) (now : Instant) (p : Progress) (t : Table) :
    Progress :=
  let (m, news, changed) := syncTable fresh now p.metadata t
  { metadata := m
    newTables := if news = .new then p.newTables ++ [t.name] else p.newTables
    modifiedTables := if news = .modified then p.modifiedTables ++ [t.name] else p.modifiedTables
    columnsChanged := p.columnsChanged + changed }

def syncTables (fresh : RecordKey → Uuid) (now : Instant) (m : Metadata) (tables : List Table) :
    Progress :=
  tables.foldl (Progress.step fresh now) ⟨m, [], [], 0⟩

/-- Whether a record of a table is active and its key was not seen. -/
def isGone (seen : List String) (key : String) (r : TableRecord) : Bool :=
  r.isActive && !seen.contains key

/-- Switches off the tables that were not seen. -/
def retireTables (now : Instant) (seen : List String) (tables : Filed TableRecord) :
    Filed TableRecord :=
  tables.map fun key r =>
    if isGone seen key r then { r with isActive := false, lastSynced := now } else r

/-- The names of the tables that `retireTables` switches off, in the order of their keys. -/
def retiredNames (seen : List String) (tables : Filed TableRecord) : List String :=
  tables.toList.filterMap fun (key, r) => if isGone seen key r then some r.tableName else none

/-- The identities of the inactive tables. -/
def inactiveIds (tables : Filed TableRecord) : List Uuid :=
  tables.toList.filterMap fun (_, r) => if r.isActive then none else some r.id

/-- Switches off the columns and indexes of inactive tables. -/
def retireParts (m : Metadata) : Metadata :=
  let inactive := inactiveIds m.tables
  { m with
    columns := m.columns.map fun _ r =>
      if inactive.contains r.tableId then { r with isActive := false } else r
    indexes := m.indexes.map fun _ r =>
      if inactive.contains r.tableId then { r with isActive := false } else r }

def syncRelationship (fresh : RecordKey → Uuid) (records : Filed RelationshipRecord)
    (r : Relationship) : Filed RelationshipRecord :=
  let hash := Fingerprint.ofRelationship r
  match records[r.key]? with
  | some rec => records.insert r.key (rec.refresh hash r)
  | none => records.insert r.key (.create (fresh ⟨.relationship, r.key⟩) hash r)

def syncRelationships (fresh : RecordKey → Uuid) (relationships : List Relationship)
    (records : Filed RelationshipRecord) : Filed RelationshipRecord :=
  let seen := relationships.map Relationship.key
  (relationships.foldl (syncRelationship fresh) records).map fun key r =>
    if seen.contains key then r else { r with isActive := false }

/-- Brings the records in line with a snapshot. `fresh` gives the identities of new records. -/
def sync (fresh : RecordKey → Uuid) (now : Instant) (s : Snapshot) (m : Metadata) :
    Metadata × SyncResult :=
  let p := syncTables fresh now m s.tables
  let seen := s.tables.map Table.qualifiedName
  let synced := retireParts { p.metadata with tables := retireTables now seen p.metadata.tables }
  ({ synced with relationships := syncRelationships fresh s.relationships synced.relationships },
    { tablesChanged := p.newTables.length + p.modifiedTables.length
      tablesTotal := s.tables.length
      newTables := p.newTables
      modifiedTables := p.modifiedTables
      deactivatedTables := retiredNames seen p.metadata.tables
      columnsChanged := p.columnsChanged
      syncedAt := now })

/-! ## Questions and stamps -/

def table? (m : Metadata) (schema name : String) : Option TableRecord :=
  m.tables[tableKey schema name]?

/-- The records of active tables in the order of their keys. -/
def activeTables (m : Metadata) : List TableRecord :=
  (m.tables.toList.map (·.2)).filter (·.isActive)

/-- The active columns of a table in the order of their keys. -/
def columnsFor (m : Metadata) (tableId : Uuid) : List ColumnRecord :=
  (m.columns.toList.map (·.2)).filter fun r => r.tableId == tableId && r.isActive

/-- How many active tables have another hash than before, or none before. -/
def changedTablesCount (m : Metadata) : Nat :=
  m.activeTables.countP (·.hash.hasChanged)

def stamp (m : Metadata) (key : String) (time : Instant) : Metadata :=
  { m with tables := m.tables.modify key ({ · with lastGenerated := some time }) }

/-- Notes that a table was generated. -/
def markGenerated (m : Metadata) (schema name : String) (time : Instant) : Outcome Metadata :=
  if m.tables.contains (tableKey schema name) then .ok (m.stamp (tableKey schema name) time)
  else .error (.notFound ("Table metadata " ++ schema ++ "." ++ name))

/-- Notes that all tables with these keys were generated; none of them if a key is unknown. -/
def markAllGenerated (m : Metadata) (keys : List String) (time : Instant) : Outcome Metadata :=
  match keys.find? fun key => !m.tables.contains key with
  | some missing => .error (.notFound ("Table metadata " ++ missing))
  | none => .ok (keys.foldl (fun m key => m.stamp key time) m)

/-- Replaces the flags of a table that is known. -/
def setFlags (m : Metadata) (key : String) (flags : GenerationFlags) : Metadata :=
  { m with tables := m.tables.modify key ({ · with flags := flags }) }

end Metadata

end SchemaCodegen
