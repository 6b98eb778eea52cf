import SchemaCodegen.Digest
import SchemaCodegen.Snapshot.Format

/-!
# Structural fingerprints

The digest of an entity's shape, written as JSON on one line with the members of every object in
the order of their names. Conventions, properties and times are no part of a shape, nor is the
order of a table's columns and indexes.
-/

namespace SchemaCodegen.Fingerprint

def ofShape (shape : Json) : String :=
  Digest.ofText shape.compact

/-- The fields that make up a column's shape, in the order of their names. -/
def columnShape (c : Column) : Json :=
  .object
    [("dataType", .text c.dataType), ("isComputed", .bool c.isComputed),
     ("isForeignKey", .bool c.isForeignKey), ("isIdentity", .bool c.isIdentity),
     ("isNullable", .bool c.isNullable), ("isPrimaryKey", .bool c.isPrimaryKey),
     ("maxLength", Json.ofOption Json.ofInt32 c.maxLength), ("name", .text c.name),
     ("precision", Json.ofOption Json.ofInt32 c.precision),
     ("referencedColumn", Json.ofOption .text c.referencedColumn),
     ("referencedTable", Json.ofOption .text c.referencedTable),
     ("scale", Json.ofOption Json.ofInt32 c.scale)]

def indexShape (i : Index) : Json :=
  .object
    [("columns", Json.ofTexts i.columns), ("descendingColumns", Json.ofTexts i.descendingColumns),
     ("includedColumns", Json.ofOption Json.ofTexts i.includedColumns),
     ("isClustered", .bool i.isClustered), ("isUnique", .bool i.isUnique), ("name", .text i.name)]

/-- The entities in the order of their names; those of equal names stay in order. -/
def byName {α : Type} (name : α → String) (as : List α) : List α :=
  as.mergeSort fun a b => (compare (name a) (name b)).isLE

def tableShape (t : Table) : Json :=
  .object
    [("columns", Json.ofList columnShape (byName Column.name t.columns)),
     ("indexes", Json.ofList indexShape (byName Index.name t.indexes)), ("name", .text t.name),
     ("primaryKeyColumns", Json.ofTexts t.primaryKeyColumns), ("schemaName", .text t.schemaName)]

def relationshipShape (r : Relationship) : Json :=
  .object
    [("key", .text r.key), ("onDelete", .text r.onDelete), ("onUpdate", .text r.onUpdate),
     ("relationshipType", r.cardinality.toJson)]

def ofColumn (c : Column) : String :=
  ofShape (columnShape c)

def ofIndex (i : Index) : String :=
  ofShape (indexShape i)

def ofTable (t : Table) : String :=
  ofShape (tableShape t)

def ofRelationship (r : Relationship) : String :=
  ofShape (relationshipShape r)

end SchemaCodegen.Fingerprint
