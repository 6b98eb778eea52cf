import SchemaCodegen.Database.Cell
import SchemaCodegen.Procedure

/-!
# Catalog queries

What is asked of the catalog of a database, and the rows that answer.
-/

namespace SchemaCodegen

namespace Catalog

/-- The database itself. -/
structure DatabaseRow where
  databaseName : String
  serverName : String
  version : String
deriving DecidableEq, Repr

structure TableRow where
  schemaName : String
  tableName : String
deriving DecidableEq, Repr

/-- A column. What may be so is told by words, as the catalog has them. -/
structure ColumnRow where
  name : String
  dataType : String
  maxLength : Option Int32
  precision : Option Int32
  scale : Option Int32
  isNullable : String
  isIdentity : String
  isGenerated : String
  comment : Option String
deriving DecidableEq, Repr

/-- One column of an index. -/
structure IndexRow where
  schemaName : String
  tableName : String
  indexName : String
  isUnique : Bool
  isClustered : Bool
  /-- How many of the index's columns are key columns. -/
  keyCount : Int32
  /-- The place of the column in the index, from 1 on. -/
  place : Int32
  columnName : String
  options : Int32
deriving DecidableEq, Repr

/-- One pair of columns of a foreign key. -/
structure ForeignKeyRow where
  constraintName : String
  childTable : String
  childColumn : String
  parentTable : String
  parentColumn : String
  onDelete : String
  onUpdate : String
deriving DecidableEq, Repr

inductive Query where
  /-- One row for the database. -/
  | info
  /-- By schema and name. -/
  | tables
  /-- The key columns of a table, in key order. -/
  | primaryKey (schema table : String)
  /-- By position. -/
  | columns (schema table : String)
  /-- By schema, table, index and place. -/
  | indexes
  /-- By child table and constraint. -/
  | foreignKeys
deriving DecidableEq, Repr

/-- The values that are sent with a query. -/
def Query.parameters : Query → List String
  | .primaryKey schema table => [schema, table]
  | .columns schema table => [schema, table]
  | _ => []

/-- The rows that answer a query. -/
def Query.Row : Query → Type
  | .info => DatabaseRow
  | .tables => TableRow
  | .primaryKey _ _ => String
  | .columns _ _ => ColumnRow
  | .indexes => IndexRow
  | .foreignKeys => ForeignKeyRow

/-! ## Reading rows -/

open Database (Columns)

def DatabaseRow.columns : Columns DatabaseRow :=
  DatabaseRow.mk <$> .text "database_name" <*> .text "server_name" <*> .text "version"

def TableRow.columns : Columns TableRow :=
  TableRow.mk <$> .text "table_schema" <*> .text "table_name"

def ColumnRow.columns : Columns ColumnRow :=
  ColumnRow.mk <$> .text "column_name" <*> .text "data_type" <*> .nullable (.integer "max_length")
    <*> .nullable (.integer "precision") <*> .nullable (.integer "scale") <*> .text "is_nullable"
    <*> .text "is_identity" <*> .text "is_generated" <*> .nullable (.text "comment")

def IndexRow.columns : Columns IndexRow :=
  IndexRow.mk <$> .text "schema_name" <*> .text "table_name" <*> .text "index_name"
    <*> .bool "is_unique" <*> .bool "is_clustered" <*> .integer "key_count" <*> .integer "ord"
    <*> .text "column_name" <*> .integer "options"

def ForeignKeyRow.columns : Columns ForeignKeyRow :=
  ForeignKeyRow.mk <$> .text "constraint_name" <*> .text "child_table" <*> .text "child_column"
    <*> .text "parent_table" <*> .text "parent_column" <*> .text "on_delete" <*> .text "on_update"

/-- The columns of the rows that answer a query. -/
def Query.rowColumns : (query : Query) → Columns query.Row
  | .info => DatabaseRow.columns
  | .tables => TableRow.columns
  | .primaryKey _ _ => .text "column_name"
  | .columns _ _ => ColumnRow.columns
  | .indexes => IndexRow.columns
  | .foreignKeys => ForeignKeyRow.columns

end Catalog

/-- What may be asked of a catalog. -/
def catalog : Interface where
  Call := Catalog.Query
  Reply query := Except Database.Fault (List query.Row)

end SchemaCodegen
