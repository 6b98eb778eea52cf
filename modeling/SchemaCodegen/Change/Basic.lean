import SchemaCodegen.Snapshot.Basic

/-!
# Changes between snapshots

Which tables, columns, indexes and relationships were added, removed or modified from one
snapshot to the next. Everything is matched by name, relationships by their key. Below tables
that only one of the snapshots has nothing is reported, and of an index only its presence counts.
-/

namespace SchemaCodegen

inductive ChangeKind where
  | added
  | removed
  | modified
deriving DecidableEq, Repr, Inhabited

structure TableChange where
  kind : ChangeKind
  tableName : String
  old : Option Table
  new : Option Table
  description : String
deriving DecidableEq

structure ColumnChange where
  kind : ChangeKind
  tableName : String
  columnName : String
  old : Option Column
  new : Option Column
  description : String
deriving DecidableEq

structure IndexChange where
  kind : ChangeKind
  tableName : String
  indexName : String
  old : Option Index
  new : Option Index
  description : String
deriving DecidableEq

structure RelationshipChange where
  kind : ChangeKind
  key : String
  old : Option Relationship
  new : Option Relationship
  description : String
deriving DecidableEq

structure Changes where
  tables : List TableChange
  columns : List ColumnChange
  indexes : List IndexChange
  relationships : List RelationshipChange
deriving DecidableEq

namespace Changes

def none : Changes :=
  ⟨[], [], [], []⟩

def total (c : Changes) : Nat :=
  c.tables.length + c.columns.length + c.indexes.length + c.relationships.length

def isEmpty (c : Changes) : Bool :=
  c.total == 0

/-- The tables at both ends of a changed relationship. -/
def relationshipEnds (c : RelationshipChange) : List String :=
  match c.old.or c.new with
  | some r => [r.parentTable, r.childTable]
  | Option.none => []

/-- The names without repetitions, in order. -/
def sortedNames (names : List String) : List String :=
  (names.foldl (fun (set : Std.ExtTreeMap String Unit) name => set.insert name ()) ∅).keys

/-- The tables that some change concerns. -/
def affectedTables (c : Changes) : List String :=
  sortedNames <|
    c.tables.map (·.tableName) ++ c.columns.map (·.tableName) ++ c.indexes.map (·.tableName) ++
      c.relationships.flatMap relationshipEnds

/-- One line that tells how much changed. -/
def summary (c : Changes) : String :=
  let tables (kind : ChangeKind) := toString (c.tables.countP (·.kind == kind))
  let columns (kind : ChangeKind) := toString (c.columns.countP (·.kind == kind))
  tables .added ++ " tables added, " ++ tables .removed ++ " removed; " ++
    columns .added ++ " columns added, " ++ columns .removed ++ " removed, " ++
    columns .modified ++ " modified; " ++ toString c.indexes.length ++ " index and " ++
    toString c.relationships.length ++ " relationship changes"

/-! ## Finding changes -/

def tableAdded (t : Table) : TableChange :=
  ⟨.added, t.name, Option.none, some t, "Table '" ++ t.name ++ "' was added"⟩

def tableRemoved (t : Table) : TableChange :=
  ⟨.removed, t.name, some t, Option.none, "Table '" ++ t.name ++ "' was removed"⟩

def columnAdded (table : String) (c : Column) : ColumnChange :=
  ⟨.added, table, c.name, Option.none, some c,
    "Column '" ++ table ++ "." ++ c.name ++ "' was added"⟩

def columnRemoved (table : String) (c : Column) : ColumnChange :=
  ⟨.removed, table, c.name, some c, Option.none,
    "Column '" ++ table ++ "." ++ c.name ++ "' was removed"⟩

def describeLength : Option Int32 → String
  | Option.none => "none"
  | some n => toString n.toInt

def describeNullability (isNullable : Bool) : String :=
  if isNullable then "NULL" else "NOT NULL"

def describeFlag (flag : Bool) : String :=
  if flag then "true" else "false"

/-- A difference between two values of one aspect, as `aspect changed: old → new`. -/
def difference {α : Type} [DecidableEq α] (aspect : String) (describe : α → String)
    (old new : α) : List String :=
  if old = new then [] else [aspect ++ " changed: " ++ describe old ++ " → " ++ describe new]

/-- What differs between two columns of one name. Only type, length, nullability and the key
flags count. -/
def columnDifferences (old new : Column) : List String :=
  difference "type" id old.dataType new.dataType ++
  difference "length" describeLength old.maxLength new.maxLength ++
  difference "nullability" describeNullability old.isNullable new.isNullable ++
  difference "primary key" describeFlag old.isPrimaryKey new.isPrimaryKey ++
  difference "foreign key" describeFlag old.isForeignKey new.isForeignKey

def columnModified? (table : String) (old new : Column) : Option ColumnChange :=
  match columnDifferences old new with
  | [] => Option.none
  | differences =>
    some ⟨.modified, table, new.name, some old, some new,
      "Column '" ++ table ++ "." ++ new.name ++ "' modified: " ++
        String.intercalate ", " differences⟩

/-- The change of one column of the new table. -/
def columnChange? (old : Table) (table : String) (c : Column) : Option ColumnChange :=
  match old.column? c.name with
  | Option.none => some (columnAdded table c)
  | some before => columnModified? table before c

def columnChanges (old new : Table) : List ColumnChange :=
  new.columns.filterMap (columnChange? old new.name) ++
    (old.columns.filter fun c => (new.column? c.name).isNone).map (columnRemoved new.name)

def indexAdded (table : String) (i : Index) : IndexChange :=
  ⟨.added, table, i.name, Option.none, some i,
    "Index '" ++ i.name ++ "' was added on '" ++ table ++ "'"⟩

def indexRemoved (table : String) (i : Index) : IndexChange :=
  ⟨.removed, table, i.name, some i, Option.none,
    "Index '" ++ i.name ++ "' was removed from '" ++ table ++ "'"⟩

/-- The members of `as` whose key no member of `bs` has. -/
def lacking {α : Type} (key : α → String) (as bs : List α) : List α :=
  as.filter fun a => !bs.any fun b => key b == key a

def indexChanges (old new : Table) : List IndexChange :=
  (lacking Index.name new.indexes old.indexes).map (indexAdded new.name) ++
    (lacking Index.name old.indexes new.indexes).map (indexRemoved new.name)

def describeRelationship (r : Relationship) : String :=
  r.parentTable ++ "." ++ r.parentColumn ++ " -> " ++ r.childTable ++ "." ++ r.childColumn

def relationshipAdded (r : Relationship) : RelationshipChange :=
  ⟨.added, r.key, Option.none, some r, "Relationship added: " ++ describeRelationship r⟩

def relationshipRemoved (r : Relationship) : RelationshipChange :=
  ⟨.removed, r.key, some r, Option.none, "Relationship removed: " ++ describeRelationship r⟩

/-- What two versions of the tables give, for each table that both have. -/
def sharedTables {α : Type} (f : Table → Table → List α) (old new : List Table) : List α :=
  new.flatMap fun t =>
    match old.find? fun o => o.name == t.name with
    | some o => f o t
    | Option.none => []

/-- The changes from `old` to `new`, those of new things in the order of `new` and removals in
the order of `old`. -/
def between (old new : Snapshot) : Changes where
  tables :=
    (lacking Table.name new.tables old.tables).map tableAdded ++
      (lacking Table.name old.tables new.tables).map tableRemoved
  columns := sharedTables columnChanges old.tables new.tables
  indexes := sharedTables indexChanges old.tables new.tables
  relationships :=
    (lacking Relationship.key new.relationships old.relationships).map relationshipAdded ++
      (lacking Relationship.key old.relationships new.relationships).map relationshipRemoved

/-- The changes since a baseline. Without a baseline nothing counts as changed. -/
def since (baseline : Option Snapshot) (new : Snapshot) : Changes :=
  match baseline with
  | Option.none => none
  | some old => between old new

end Changes

end SchemaCodegen
