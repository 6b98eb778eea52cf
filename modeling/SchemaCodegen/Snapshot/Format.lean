import SchemaCodegen.Json.Printer
import SchemaCodegen.Json.Text
import SchemaCodegen.Snapshot.Basic

/-!
# The snapshot format

Snapshots as JSON text. Every record is written with its fields in declaration order; fields that
hold nothing are left out where reading puts nothing in their place.
-/

namespace SchemaCodegen

open Json (Record)
open Json.Decode (text bool list)

/-- Numbers of the database have 32 bits. -/
def Json.Decode.int32 : Json.Decoder Int32 := fun value =>
  (Json.Decode.intBetween (-2147483648) 2147483647 value).map Int32.ofInt

def Json.ofInt32 (n : Int32) : Json :=
  Json.ofInt n.toInt

def Json.Decode.instant : Json.Decoder Instant :=
  Json.Decode.parsed Instant.ofText?

def Instant.toJson (t : Instant) : Json :=
  .text t.toText

namespace Column

def toJson (c : Column) : Json :=
  .object <|
    [("name", .text c.name), ("dataType", .text c.dataType)] ++
    Json.optionalMember "maxLength" Json.ofInt32 c.maxLength ++
    Json.optionalMember "precision" Json.ofInt32 c.precision ++
    Json.optionalMember "scale" Json.ofInt32 c.scale ++
    [("isNullable", .bool c.isNullable), ("isPrimaryKey", .bool c.isPrimaryKey),
     ("isIdentity", .bool c.isIdentity), ("isComputed", .bool c.isComputed),
     ("isForeignKey", .bool c.isForeignKey)] ++
    Json.optionalMember "referencedTable" .text c.referencedTable ++
    Json.optionalMember "referencedColumn" .text c.referencedColumn ++
    [("convention", c.convention.toJson)] ++
    (if c.properties.isEmpty then [] else [("extendedProperties", c.properties.toJson)])

def record : Record Column :=
  Column.mk <$> .required "name" text <*> .required "dataType" text
    <*> .optional "maxLength" Json.Decode.int32 <*> .optional "precision" Json.Decode.int32
    <*> .optional "scale" Json.Decode.int32
    <*> .required "isNullable" bool <*> .required "isPrimaryKey" bool
    <*> .required "isIdentity" bool <*> .required "isComputed" bool
    <*> .required "isForeignKey" bool
    <*> .optional "referencedTable" text <*> .optional "referencedColumn" text
    <*> .withDefault "convention" Convention.decode .none
    <*> .withDefault "extendedProperties" Properties.decode ∅

def decode : Json.Decoder Column := record.decode

end Column

namespace Index

def toJson (i : Index) : Json :=
  .object <|
    [("name", .text i.name), ("isUnique", .bool i.isUnique), ("isClustered", .bool i.isClustered),
     ("columns", Json.ofTexts i.columns)] ++
    Json.optionalMember "includedColumns" Json.ofTexts i.includedColumns ++
    (if i.descendingColumns.isEmpty then []
     else [("descendingColumns", Json.ofTexts i.descendingColumns)])

def record : Record Index :=
  Index.mk <$> .required "name" text <*> .required "isUnique" bool
    <*> .required "isClustered" bool <*> .required "columns" (list text)
    <*> .optional "includedColumns" (list text)
    <*> .withDefault "descendingColumns" (list text) []

def decode : Json.Decoder Index := record.decode

end Index

namespace Table

def toJson (t : Table) : Json :=
  .object
    [("name", .text t.name), ("schemaName", .text t.schemaName),
     ("columns", Json.ofList Column.toJson t.columns),
     ("indexes", Json.ofList Index.toJson t.indexes),
     ("primaryKeyColumns", Json.ofTexts t.primaryKeyColumns)]

def record : Record Table :=
  Table.mk <$> .required "name" text <*> .required "schemaName" text
    <*> .required "columns" (list Column.decode)
    <*> .withDefault "indexes" (list Index.decode) []
    <*> .withDefault "primaryKeyColumns" (list text) []

def decode : Json.Decoder Table := record.decode

end Table

namespace Cardinality

def names : List (String × Cardinality) :=
  [("OneToMany", .oneToMany), ("OneToOne", .oneToOne), ("ManyToMany", .manyToMany)]

def name : Cardinality → String
  | .oneToMany => "OneToMany"
  | .oneToOne => "OneToOne"
  | .manyToMany => "ManyToMany"

def toJson (c : Cardinality) : Json :=
  .text c.name

def decode : Json.Decoder Cardinality :=
  Json.Decode.variant names

/-- Text that is no name reads as the most common cardinality. -/
def ofName (s : String) : Cardinality :=
  (names.lookup s).getD .oneToMany

end Cardinality

namespace Relationship

/-- What happens to children unless the foreign key says otherwise. -/
def noAction : String := "NoAction"

def toJson (r : Relationship) : Json :=
  .object
    [("foreignKeyName", .text r.foreignKeyName), ("parentTable", .text r.parentTable),
     ("parentColumn", .text r.parentColumn), ("childTable", .text r.childTable),
     ("childColumn", .text r.childColumn), ("relationshipType", r.cardinality.toJson),
     ("onDelete", .text r.onDelete), ("onUpdate", .text r.onUpdate)]

def record : Record Relationship :=
  Relationship.mk <$> .required "foreignKeyName" text <*> .required "parentTable" text
    <*> .required "parentColumn" text <*> .required "childTable" text
    <*> .required "childColumn" text
    <*> .withDefault "relationshipType" Cardinality.decode .oneToMany
    <*> .withDefault "onDelete" text noAction <*> .withDefault "onUpdate" text noAction

def decode : Json.Decoder Relationship := record.decode

end Relationship

namespace Snapshot

def toJson (s : Snapshot) : Json :=
  .object
    [("databaseName", .text s.databaseName), ("serverName", .text s.serverName),
     ("version", .text s.version), ("analyzedAt", s.analyzedAt.toJson),
     ("tables", Json.ofList Table.toJson s.tables),
     ("relationships", Json.ofList Relationship.toJson s.relationships)]

def record : Record Snapshot :=
  Snapshot.mk <$> .required "databaseName" text <*> .required "serverName" text
    <*> .required "version" text <*> .required "analyzedAt" Json.Decode.instant
    <*> .required "tables" (list Table.decode)
    <*> .required "relationships" (list Relationship.decode)

def decode : Json.Decoder Snapshot := record.decode

/-- The text of a snapshot file. -/
def toText (s : Snapshot) : String :=
  s.toJson.pretty

/-- A snapshot from its text, if its names are as they should be. -/
def ofText (s : String) : Outcome Snapshot := do
  let snapshot ← (Json.decodeText decode s).mapError Failure.serialization
  snapshot.validated

end Snapshot

end SchemaCodegen
