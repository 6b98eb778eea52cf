import SchemaCodegen.Metadata.History
import SchemaCodegen.Metadata.Plan

/-!
# Metadata as JSON

Records, states, sync results, plans and the generation history. A missing value is written as
null except where the field is left out: previous hashes and error texts.
-/

namespace SchemaCodegen

open Json (Record)
open Json.Decode (text bool list)

/-- Counts have 64 bits. -/
def Json.Decode.count : Json.Decoder Nat :=
  Json.Decode.natBelow (1 <<< 64)

def Json.Decode.uuid : Json.Decoder Uuid :=
  Json.Decode.parsed Uuid.ofText?

def Uuid.toJson (id : Uuid) : Json :=
  .text id.toText

namespace GenerationFlags

def toJson (f : GenerationFlags) : Json :=
  .object
    [("generateEntity", .bool f.entity), ("generateRepository", .bool f.repository),
     ("generateController", .bool f.controller), ("generateReactUi", .bool f.reactUi),
     ("generateStoredProcedures", .bool f.storedProcedures), ("generateCqrs", .bool f.cqrs)]

def decode : Json.Decoder GenerationFlags :=
  Record.decode <| GenerationFlags.mk <$> .required "generateEntity" bool
    <*> .required "generateRepository" bool <*> .required "generateController" bool
    <*> .required "generateReactUi" bool <*> .required "generateStoredProcedures" bool
    <*> .required "generateCqrs" bool

end GenerationFlags

namespace TableRecord

def toJson (r : TableRecord) : Json :=
  .object
    [("id", r.id.toJson), ("naturalKey", .text r.naturalKey), ("tableName", .text r.tableName),
     ("schemaName", .text r.schemaName), ("hash", r.hash.toJson), ("isActive", .bool r.isActive),
     ("lastGenerated", Json.ofOption Instant.toJson r.lastGenerated),
     ("lastSynced", r.lastSynced.toJson), ("flags", r.flags.toJson)]

def decode : Json.Decoder TableRecord :=
  Record.decode <| TableRecord.mk <$> .required "id" Json.Decode.uuid
    <*> .required "naturalKey" text <*> .required "tableName" text
    <*> .required "schemaName" text <*> .required "hash" HashPair.decode
    <*> .required "isActive" bool <*> .optional "lastGenerated" Json.Decode.instant
    <*> .required "lastSynced" Json.Decode.instant <*> .required "flags" GenerationFlags.decode

end TableRecord

namespace ColumnRecord

def toJson (r : ColumnRecord) : Json :=
  .object
    [("id", r.id.toJson), ("tableId", r.tableId.toJson), ("naturalKey", .text r.naturalKey),
     ("columnName", .text r.columnName), ("dataType", .text r.dataType),
     ("maxLength", Json.ofOption Json.ofInt32 r.maxLength),
     ("precision", Json.ofOption Json.ofInt32 r.precision),
     ("scale", Json.ofOption Json.ofInt32 r.scale), ("isNullable", .bool r.isNullable),
     ("isPrimaryKey", .bool r.isPrimaryKey), ("isIdentity", .bool r.isIdentity),
     ("isComputed", .bool r.isComputed), ("isForeignKey", .bool r.isForeignKey),
     ("referencedTable", Json.ofOption .text r.referencedTable),
     ("referencedColumn", Json.ofOption .text r.referencedColumn),
     ("prefix", r.convention.toJson), ("hash", r.hash.toJson), ("isActive", .bool r.isActive)]

def decode : Json.Decoder ColumnRecord :=
  Record.decode <| ColumnRecord.mk <$> .required "id" Json.Decode.uuid
    <*> .required "tableId" Json.Decode.uuid <*> .required "naturalKey" text
    <*> .required "columnName" text <*> .required "dataType" text
    <*> .optional "maxLength" Json.Decode.int32 <*> .optional "precision" Json.Decode.int32
    <*> .optional "scale" Json.Decode.int32 <*> .required "isNullable" bool
    <*> .required "isPrimaryKey" bool <*> .required "isIdentity" bool
    <*> .required "isComputed" bool <*> .required "isForeignKey" bool
    <*> .optional "referencedTable" text <*> .optional "referencedColumn" text
    <*> .required "prefix" Convention.decode <*> .required "hash" HashPair.decode
    <*> .required "isActive" bool

end ColumnRecord

namespace IndexColumnRecord

def toJson (r : IndexColumnRecord) : Json :=
  .object
    [("columnName", .text r.columnName), ("keyOrdinal", Json.ofInt32 r.keyOrdinal),
     ("isDescending", .bool r.isDescending), ("isIncluded", .bool r.isIncluded)]

def decode : Json.Decoder IndexColumnRecord :=
  Record.decode <| IndexColumnRecord.mk <$> .required "columnName" text
    <*> .required "keyOrdinal" Json.Decode.int32 <*> .required "isDescending" bool
    <*> .required "isIncluded" bool

end IndexColumnRecord

namespace IndexRecord

def toJson (r : IndexRecord) : Json :=
  .object
    [("id", r.id.toJson), ("tableId", r.tableId.toJson), ("naturalKey", .text r.naturalKey),
     ("indexName", .text r.indexName), ("isUnique", .bool r.isUnique),
     ("isClustered", .bool r.isClustered),
     ("columns", Json.ofList IndexColumnRecord.toJson r.columns), ("hash", r.hash.toJson),
     ("isActive", .bool r.isActive)]

def decode : Json.Decoder IndexRecord :=
  Record.decode <| IndexRecord.mk <$> .required "id" Json.Decode.uuid
    <*> .required "tableId" Json.Decode.uuid <*> .required "naturalKey" text
    <*> .required "indexName" text <*> .required "isUnique" bool
    <*> .required "isClustered" bool <*> .required "columns" (list IndexColumnRecord.decode)
    <*> .required "hash" HashPair.decode <*> .required "isActive" bool

end IndexRecord

namespace RelationshipRecord

def toJson (r : RelationshipRecord) : Json :=
  .object
    [("id", r.id.toJson), ("naturalKey", .text r.naturalKey),
     ("foreignKeyName", .text r.foreignKeyName), ("parentTable", .text r.parentTable),
     ("parentColumn", .text r.parentColumn), ("childTable", .text r.childTable),
     ("childColumn", .text r.childColumn), ("relationshipType", r.cardinality.toJson),
     ("onDelete", .text r.onDelete), ("onUpdate", .text r.onUpdate), ("hash", r.hash.toJson),
     ("isActive", .bool r.isActive)]

def decode : Json.Decoder RelationshipRecord :=
  Record.decode <| RelationshipRecord.mk <$> .required "id" Json.Decode.uuid
    <*> .required "naturalKey" text <*> .required "foreignKeyName" text
    <*> .required "parentTable" text <*> .required "parentColumn" text
    <*> .required "childTable" text <*> .required "childColumn" text
    <*> .required "relationshipType" Cardinality.decode <*> .required "onDelete" text
    <*> .required "onUpdate" text <*> .required "hash" HashPair.decode
    <*> .required "isActive" bool

end RelationshipRecord

/-- Records by key, as an object in the order of the keys. -/
def Filed.toJson {α : Type} (f : α → Json) (records : Filed α) : Json :=
  .object (records.toList.map fun (key, r) => (key, f r))

/-- Records by key; the last of equal keys counts. -/
def Filed.decode {α : Type} (d : Json.Decoder α) : Json.Decoder (Filed α) := fun value =>
  (Json.Decode.members d value).map fun members =>
    members.foldl (fun records (key, r) => records.insert key r) ∅

namespace Metadata

def toJson (m : Metadata) : Json :=
  .object
    [("tables", Filed.toJson TableRecord.toJson m.tables),
     ("columns", Filed.toJson ColumnRecord.toJson m.columns),
     ("indexes", Filed.toJson IndexRecord.toJson m.indexes),
     ("relationships", Filed.toJson RelationshipRecord.toJson m.relationships)]

def decode : Json.Decoder Metadata :=
  Record.decode <| Metadata.mk <$> .required "tables" (Filed.decode TableRecord.decode)
    <*> .required "columns" (Filed.decode ColumnRecord.decode)
    <*> .required "indexes" (Filed.decode IndexRecord.decode)
    <*> .required "relationships" (Filed.decode RelationshipRecord.decode)

end Metadata

namespace SyncResult

def toJson (r : SyncResult) : Json :=
  .object
    [("tablesChanged", Json.ofNat r.tablesChanged), ("tablesTotal", Json.ofNat r.tablesTotal),
     ("newTables", Json.ofTexts r.newTables), ("modifiedTables", Json.ofTexts r.modifiedTables),
     ("deactivatedTables", Json.ofTexts r.deactivatedTables),
     ("columnsChanged", Json.ofNat r.columnsChanged), ("syncedAt", r.syncedAt.toJson)]

def decode : Json.Decoder SyncResult :=
  Record.decode <| SyncResult.mk <$> .required "tablesChanged" Json.Decode.count
    <*> .required "tablesTotal" Json.Decode.count <*> .required "newTables" (list text)
    <*> .required "modifiedTables" (list text) <*> .required "deactivatedTables" (list text)
    <*> .required "columnsChanged" Json.Decode.count
    <*> .required "syncedAt" Json.Decode.instant

end SyncResult

namespace PlanReason

def names : List (String × PlanReason) :=
  [("new_table", .newTable), ("schema_changed", .schemaChanged),
   ("never_generated", .neverGenerated), ("forced", .forced), ("no_changes", .noChanges),
   ("generation_disabled", .generationDisabled)]

def name : PlanReason → String
  | .newTable => "new_table"
  | .schemaChanged => "schema_changed"
  | .neverGenerated => "never_generated"
  | .forced => "forced"
  | .noChanges => "no_changes"
  | .generationDisabled => "generation_disabled"

def decode : Json.Decoder PlanReason :=
  Json.Decode.variant names

end PlanReason

namespace TablePlan

def toJson (p : TablePlan) : Json :=
  .object <|
    [("tableName", .text p.tableName), ("schemaName", .text p.schemaName),
     ("isNew", .bool p.isNew), ("hasSchemaChanged", .bool p.hasSchemaChanged),
     ("requiresGeneration", .bool p.requiresGeneration), ("reason", .text p.reason.name),
     ("currentHash", .text p.currentHash)] ++
    Json.optionalMember "previousHash" .text p.previousHash ++ [("flags", p.flags.toJson)]

def decode : Json.Decoder TablePlan :=
  Record.decode <| TablePlan.mk <$> .required "tableName" text
    <*> .required "schemaName" text <*> .required "isNew" bool
    <*> .required "hasSchemaChanged" bool <*> .required "requiresGeneration" bool
    <*> .required "reason" PlanReason.decode <*> .required "currentHash" text
    <*> .optional "previousHash" text <*> .required "flags" GenerationFlags.decode

end TablePlan

namespace GenerationPlan

def toJson (p : GenerationPlan) : Json :=
  .object
    [("createdAt", p.createdAt.toJson), ("tables", Json.ofList TablePlan.toJson p.tables)]

def decode : Json.Decoder GenerationPlan :=
  Record.decode <| GenerationPlan.mk <$> .required "createdAt" Json.Decode.instant
    <*> .required "tables" (list TablePlan.decode)

end GenerationPlan

namespace GenerationOutcome

def names : List (String × GenerationOutcome) :=
  [("written", .written), ("skippedProtected", .skippedProtected), ("failed", .failed)]

def decode : Json.Decoder GenerationOutcome :=
  Json.Decode.variant names

end GenerationOutcome

namespace HistoryRecord

def toJson (r : HistoryRecord) : Json :=
  .object <|
    [("id", r.id.toJson), ("schemaName", .text r.schemaName), ("tableName", .text r.tableName),
     ("artifact", .text r.artifact), ("outputPath", .text r.outputPath),
     ("outcome", .text r.outcome.name)] ++
    Json.optionalMember "error" .text r.error ++ [("generatedAt", r.generatedAt.toJson)]

def decode : Json.Decoder HistoryRecord :=
  Record.decode <| HistoryRecord.mk <$> .required "id" Json.Decode.uuid
    <*> .required "schemaName" text <*> .required "tableName" text
    <*> .required "artifact" text <*> .required "outputPath" text
    <*> .required "outcome" GenerationOutcome.decode
    <*> .withDefault "error" (Json.Decode.option text) none
    <*> .required "generatedAt" Json.Decode.instant

end HistoryRecord

/-- The content of a metadata file: the records and the generation history, oldest first. -/
structure MetadataDocument where
  state : Metadata
  history : List HistoryRecord

namespace MetadataDocument

def empty : MetadataDocument :=
  ⟨.empty, []⟩

def toJson (d : MetadataDocument) : Json :=
  .object [("state", d.state.toJson), ("history", Json.ofList HistoryRecord.toJson d.history)]

def decode : Json.Decoder MetadataDocument :=
  Record.decode <| MetadataDocument.mk <$> .withDefault "state" Metadata.decode .empty
    <*> .withDefault "history" (list HistoryRecord.decode) []

def toText (d : MetadataDocument) : String :=
  d.toJson.pretty

def ofText (s : String) : Outcome MetadataDocument :=
  (Json.decodeText decode s).mapError .serialization

end MetadataDocument

end SchemaCodegen
