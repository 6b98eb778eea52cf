import SchemaCodegen.Convention.Resolver
import SchemaCodegen.Failure
import SchemaCodegen.Instant

/-!
# Schema snapshots

What a database looks like at one time: its tables with columns and indexes, and the foreign keys
between them. Tables are known by their bare names throughout a snapshot, which is why these have
to be distinct.
-/

namespace SchemaCodegen

structure Column where
  name : String
  dataType : String
  maxLength : Option Int32
  precision : Option Int32
  scale : Option Int32
  isNullable : Bool
  isPrimaryKey : Bool
  isIdentity : Bool
  isComputed : Bool
  isForeignKey : Bool
  referencedTable : Option String
  referencedColumn : Option String
  convention : Convention
  properties : Properties
deriving DecidableEq

structure Index where
  name : String
  isUnique : Bool
  isClustered : Bool
  /-- The key columns in key order. -/
  columns : List String
  includedColumns : Option (List String)
  descendingColumns : List String
deriving DecidableEq, Repr

structure Table where
  name : String
  schemaName : String
  columns : List Column
  indexes : List Index
  primaryKeyColumns : List String
deriving DecidableEq

/-- How many rows may be on either side of a foreign key. -/
inductive Cardinality where
  | oneToMany
  | oneToOne
  | manyToMany
deriving DecidableEq, Repr, Inhabited

/-- A foreign key, one for each pair of a parent and a child column. -/
structure Relationship where
  foreignKeyName : String
  parentTable : String
  parentColumn : String
  childTable : String
  childColumn : String
  cardinality : Cardinality
  onDelete : String
  onUpdate : String
deriving DecidableEq, Repr

structure Snapshot where
  databaseName : String
  serverName : String
  version : String
  analyzedAt : Instant
  tables : List Table
  relationships : List Relationship
deriving DecidableEq

/-- The name of a table with its schema. -/
def Table.qualifiedName (t : Table) : String :=
  t.schemaName ++ "." ++ t.name

def Table.column? (t : Table) (name : String) : Option Column :=
  t.columns.find? fun c => c.name == name

/-- What a relationship is known by. The name of the constraint is no part of it. -/
def Relationship.key (r : Relationship) : String :=
  r.parentTable ++ "." ++ r.parentColumn ++ "->" ++ r.childTable ++ "." ++ r.childColumn

namespace Snapshot

def table? (s : Snapshot) (name : String) : Option Table :=
  s.tables.find? fun t => t.name == name

/-- The relationships in which the table is parent or child. -/
def relationshipsFor (s : Snapshot) (table : String) : List Relationship :=
  s.relationships.filter fun r => r.parentTable == table || r.childTable == table

/-! ## Well-named snapshots -/

/-- What makes a snapshot unusable. -/
inductive Defect where
  | blankTableName
  | duplicateTable (name database : String)
  | duplicateColumn (name table : String)
  | duplicateIndex (name table : String)
  | duplicateRelationship (key : String)
deriving DecidableEq, Repr

def Defect.message : Defect → String
  | .blankTableName => "Table name must not be empty"
  | .duplicateTable name database =>
    "Duplicate table name '" ++ name ++ "' in snapshot of " ++ database
  | .duplicateColumn name table => "Duplicate column '" ++ name ++ "' in table " ++ table
  | .duplicateIndex name table => "Duplicate index '" ++ name ++ "' in table " ++ table
  | .duplicateRelationship key => "Duplicate relationship " ++ key

/-- The first text that was seen before. -/
def firstRepeated? (seen : List String) : List String → Option String
  | [] => none
  | s :: rest => if seen.contains s then some s else firstRepeated? (s :: seen) rest

/-- The first repeated column, or else the first repeated index. -/
def tableDefect? (t : Table) : Option Defect :=
  match firstRepeated? [] (t.columns.map (·.name)) with
  | some name => some (.duplicateColumn name t.name)
  | none =>
    (firstRepeated? [] (t.indexes.map (·.name))).map fun name => .duplicateIndex name t.name

/-- The first defect of the tables, each table's own name first. -/
def tablesDefect? (database : String) (seen : List String) : List Table → Option Defect
  | [] => none
  | t :: rest =>
    if Text.isAllBlank t.name then some .blankTableName
    else if seen.contains t.name then some (.duplicateTable t.name database)
    else (tableDefect? t).or (tablesDefect? database (t.name :: seen) rest)

def defect? (s : Snapshot) : Option Defect :=
  (tablesDefect? s.databaseName [] s.tables).or
    ((firstRepeated? [] (s.relationships.map (·.key))).map .duplicateRelationship)

/-- The snapshot, unless it has a defect. -/
def validated (s : Snapshot) : Outcome Snapshot :=
  match s.defect? with
  | some defect => .error (.validation defect.message)
  | none => .ok s

end Snapshot

end SchemaCodegen
