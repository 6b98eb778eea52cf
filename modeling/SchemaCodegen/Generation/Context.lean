import SchemaCodegen.Snapshot.Format

/-!
# Render contexts

What a template sees of a table: its columns with their conventions, its indexes, and the
relationships that it takes part in.
-/

namespace SchemaCodegen

structure ColumnContext where
  name : String
  dataType : String
  maxLength : Option Int32
  precision : Option Int32
  scale : Option Int32
  isNullable : Bool
  isPrimaryKey : Bool
  isIdentity : Bool
  isComputed : Bool
  isForeignKey : Bool
  referencedTable : Option String
  referencedColumn : Option String
  convention : Convention
  conventionCode : Option String
  isReadOnly : Bool
  excludedFromUpdate : Bool
deriving DecidableEq

namespace ColumnContext

/-- The convention that the rules give a column, or else the one that it was stored with. -/
def conventionOf (rules : Convention.Resolver) (c : Column) : Convention :=
  match rules.resolve c.name (some c.properties) with
  | .none => c.convention
  | found => found

/-- A column under a convention. What the database computes is never written, and what it fills by
itself is left out of updates. -/
def of (convention : Convention) (c : Column) : ColumnContext where
  name := c.name
  dataType := c.dataType
  maxLength := c.maxLength
  precision := c.precision
  scale := c.scale
  isNullable := c.isNullable
  isPrimaryKey := c.isPrimaryKey
  isIdentity := c.isIdentity
  isComputed := c.isComputed
  isForeignKey := c.isForeignKey
  referencedTable := c.referencedTable
  referencedColumn := c.referencedColumn
  convention := convention
  conventionCode := convention.code?
  isReadOnly := convention.isReadOnly || c.isComputed
  excludedFromUpdate := convention.isExcludedFromUpdate || c.isComputed || c.isIdentity

def toJson (c : ColumnContext) : Json :=
  .object
    [("name", .text c.name), ("dataType", .text c.dataType),
     ("maxLength", Json.ofOption Json.ofInt32 c.maxLength),
     ("precision", Json.ofOption Json.ofInt32 c.precision),
     ("scale", Json.ofOption Json.ofInt32 c.scale), ("isNullable", .bool c.isNullable),
     ("isPrimaryKey", .bool c.isPrimaryKey), ("isIdentity", .bool c.isIdentity),
     ("isComputed", .bool c.isComputed), ("isForeignKey", .bool c.isForeignKey),
     ("referencedTable", Json.ofOption .text c.referencedTable),
     ("referencedColumn", Json.ofOption .text c.referencedColumn),
     ("convention", c.convention.toJson),
     ("conventionCode", Json.ofOption .text c.conventionCode),
     ("isReadOnly", .bool c.isReadOnly), ("excludedFromUpdate", .bool c.excludedFromUpdate)]

end ColumnContext

structure TableContext where
  name : String
  schema : String
  columns : List ColumnContext
  primaryKeyColumns : List String
  indexes : List Index
  /-- The relationships in which the table is the child. -/
  parents : List Relationship
  /-- The relationships in which the table is the parent only. -/
  children : List Relationship
deriving DecidableEq

namespace TableContext

def build (rules : Convention.Resolver) (s : Snapshot) (t : Table) : TableContext :=
  let (parents, children) := (s.relationshipsFor t.name).partition (·.childTable == t.name)
  { name := t.name
    schema := t.schemaName
    columns := t.columns.map fun c => .of (ColumnContext.conventionOf rules c) c
    primaryKeyColumns := t.primaryKeyColumns
    indexes := t.indexes
    parents := parents
    children := children }

def toJson (c : TableContext) : Json :=
  .object
    [("name", .text c.name), ("schema", .text c.schema),
     ("columns", Json.ofList ColumnContext.toJson c.columns),
     ("primaryKeyColumns", Json.ofTexts c.primaryKeyColumns),
     ("indexes", Json.ofList Index.toJson c.indexes),
     ("parents", Json.ofList Relationship.toJson c.parents),
     ("children", Json.ofList Relationship.toJson c.children)]

end TableContext

end SchemaCodegen
