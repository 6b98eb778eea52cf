import SchemaCodegen.Catalog.Query
import SchemaCodegen.Snapshot.Basic

/-!
# Assembling a snapshot from catalog rows

How rows become tables, indexes and relationships. The rows of an index follow one another, so an
index goes on as long as its name stays. Relationships with one key are one, and the columns that
they start from are marked.
-/

namespace SchemaCodegen.Catalog

/-! ## Tables -/

/-- The rows whose table names did not occur before; snapshots know tables by their bare names. -/
def firstOfEachName (seen : List String) : List TableRow → List TableRow
  | [] => []
  | row :: rows =>
    if seen.contains row.tableName then firstOfEachName seen rows
    else row :: firstOfEachName (row.tableName :: seen) rows

/-- A column that is known not to be a foreign key. -/
def ColumnRow.column (rules : Convention.Resolver) (primaryKey : List String) (row : ColumnRow) :
    Column :=
  let properties := (row.comment.map Properties.ofComment).getD ∅
  { name := row.name
    dataType := row.dataType
    maxLength := row.maxLength
    precision := row.precision
    scale := row.scale
    isNullable := row.isNullable == "YES"
    isPrimaryKey := primaryKey.contains row.name
    isIdentity := row.isIdentity == "YES"
    isComputed := row.isGenerated == "ALWAYS"
    isForeignKey := false
    referencedTable := none
    referencedColumn := none
    convention := rules.resolve row.name (some properties)
    properties := properties }

/-- A table without its indexes. -/
def TableRow.table (rules : Convention.Resolver) (primaryKey : List String)
    (columns : List ColumnRow) (row : TableRow) : Table where
  name := row.tableName
  schemaName := row.schemaName
  columns := columns.map (ColumnRow.column rules primaryKey)
  indexes := []
  primaryKeyColumns := primaryKey

/-! ## Indexes -/

/-- Whether the column is carried by the index without being part of its key. -/
def IndexRow.isIncluded (row : IndexRow) : Bool :=
  decide (row.keyCount < row.place)

/-- The lowest bit of a key column's options tells that it is sorted downwards. -/
def IndexRow.isDescending (row : IndexRow) : Bool :=
  row.options &&& 1 == 1

/-- The index without columns that a row belongs to. -/
def IndexRow.start (row : IndexRow) : Index :=
  ⟨row.indexName, row.isUnique, row.isClustered, [], none, []⟩

/-- The index with the column of one more row. -/
def IndexRow.extend (row : IndexRow) (i : Index) : Index :=
  if row.isIncluded then
    { i with includedColumns := some (i.includedColumns.getD [] ++ [row.columnName]) }
  else
    { i with
      columns := i.columns ++ [row.columnName]
      descendingColumns :=
        if row.isDescending then i.descendingColumns ++ [row.columnName]
        else i.descendingColumns }

/-- The indexes of a table with one more row, which goes on with the last index if it has its
name. -/
def addIndexRow (indexes : List Index) (row : IndexRow) : List Index :=
  match indexes.getLast? with
  | some i =>
    if i.name = row.indexName then indexes.dropLast ++ [row.extend i]
    else indexes ++ [row.extend row.start]
  | none => [row.extend row.start]

/-- The qualified name of the table that an index belongs to. -/
def IndexRow.tableKey (row : IndexRow) : String :=
  row.schemaName ++ "." ++ row.tableName

/-- The indexes of each table, by its qualified name. -/
def indexesByTable (rows : List IndexRow) : Std.ExtTreeMap String (List Index) :=
  rows.foldl (fun indexes row =>
    indexes.insert row.tableKey (addIndexRow (indexes.getD row.tableKey []) row)) ∅

/-- The tables with their indexes. The first table of a qualified name gets them. -/
def attachIndexes (indexes : Std.ExtTreeMap String (List Index)) : List Table → List Table
  | [] => []
  | t :: tables =>
    { t with indexes := indexes.getD t.qualifiedName [] } ::
      attachIndexes (indexes.erase t.qualifiedName) tables

/-! ## Relationships -/

/-- What the code of an action means. -/
def actionName (code : String) : String :=
  if code == "r" then "Restrict"
  else if code == "c" then "Cascade"
  else if code == "n" then "SetNull"
  else if code == "d" then "SetDefault"
  else "NoAction"

/-- Whether a column alone tells the rows of its table apart. -/
def isUniqueColumn (t : Table) (column : String) : Bool :=
  t.primaryKeyColumns == [column] || t.indexes.any fun i => i.isUnique && i.columns == [column]

/-- A foreign key whose child column is unique in its table has at most one child. -/
def ForeignKeyRow.cardinality (tables : List Table) (row : ForeignKeyRow) : Cardinality :=
  match tables.find? (·.name == row.childTable) with
  | some t => if isUniqueColumn t row.childColumn then .oneToOne else .oneToMany
  | none => .oneToMany

def ForeignKeyRow.relationship (tables : List Table) (row : ForeignKeyRow) : Relationship where
  foreignKeyName := row.constraintName
  parentTable := row.parentTable
  parentColumn := row.parentColumn
  childTable := row.childTable
  childColumn := row.childColumn
  cardinality := row.cardinality tables
  onDelete := actionName row.onDelete
  onUpdate := actionName row.onUpdate

/-- A list with its first element that satisfies `p` changed. -/
def modifyFirst {α : Type} (p : α → Bool) (f : α → α) : List α → List α
  | [] => []
  | a :: as => if p a then f a :: as else a :: modifyFirst p f as

/-- The column that a foreign key starts from. -/
def ForeignKeyRow.markColumn (row : ForeignKeyRow) (c : Column) : Column :=
  { c with
    isForeignKey := true
    referencedTable := some row.parentTable
    referencedColumn := some row.parentColumn }

def ForeignKeyRow.markTable (row : ForeignKeyRow) (t : Table) : Table :=
  { t with columns := modifyFirst (·.name == row.childColumn) row.markColumn t.columns }

/-- The tables with the column marked that a foreign key starts from. -/
def ForeignKeyRow.mark (tables : List Table) (row : ForeignKeyRow) : List Table :=
  modifyFirst (·.name == row.childTable) row.markTable tables

/-- The relationships whose keys did not occur before. -/
def firstOfEachKey (seen : List String) : List Relationship → List Relationship
  | [] => []
  | r :: rs =>
    if seen.contains r.key then firstOfEachKey seen rs
    else r :: firstOfEachKey (r.key :: seen) rs

def relationshipsOf (tables : List Table) (rows : List ForeignKeyRow) : List Relationship :=
  firstOfEachKey [] (rows.map (ForeignKeyRow.relationship tables))

/-- The tables with all columns marked that foreign keys start from. -/
def markForeignKeys (tables : List Table) (rows : List ForeignKeyRow) : List Table :=
  rows.foldl ForeignKeyRow.mark tables

end SchemaCodegen.Catalog
