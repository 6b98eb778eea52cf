import SchemaCodegen.Change.Basic
import SchemaCodegen.Snapshot.Format

/-!
# Changes as JSON

Each change with its kind, the entity before and after where there is one, and its description.
-/

namespace SchemaCodegen

open Json (Record)
open Json.Decode (text list)

namespace ChangeKind

def names : List (String × ChangeKind) :=
  [("added", .added), ("removed", .removed), ("modified", .modified)]

def name : ChangeKind → String
  | .added => "added"
  | .removed => "removed"
  | .modified => "modified"

def toJson (k : ChangeKind) : Json :=
  .text k.name

def decode : Json.Decoder ChangeKind :=
  Json.Decode.variant names

end ChangeKind

namespace TableChange

def toJson (c : TableChange) : Json :=
  .object <|
    [("changeType", c.kind.toJson), ("tableName", .text c.tableName)] ++
    Json.optionalMember "oldTable" Table.toJson c.old ++
    Json.optionalMember "newTable" Table.toJson c.new ++
    [("description", .text c.description)]

def decode : Json.Decoder TableChange :=
  Record.decode <| TableChange.mk <$> .required "changeType" ChangeKind.decode
    <*> .required "tableName" text <*> .optional "oldTable" Table.decode
    <*> .optional "newTable" Table.decode <*> .required "description" text

end TableChange

namespace ColumnChange

def toJson (c : ColumnChange) : Json :=
  .object <|
    [("changeType", c.kind.toJson), ("tableName", .text c.tableName),
     ("columnName", .text c.columnName)] ++
    Json.optionalMember "oldColumn" Column.toJson c.old ++
    Json.optionalMember "newColumn" Column.toJson c.new ++
    [("description", .text c.description)]

def decode : Json.Decoder ColumnChange :=
  Record.decode <| ColumnChange.mk <$> .required "changeType" ChangeKind.decode
    <*> .required "tableName" text <*> .required "columnName" text
    <*> .optional "oldColumn" Column.decode <*> .optional "newColumn" Column.decode
    <*> .required "description" text

end ColumnChange

namespace IndexChange

def toJson (c : IndexChange) : Json :=
  .object <|
    [("changeType", c.kind.toJson), ("tableName", .text c.tableName),
     ("indexName", .text c.indexName)] ++
    Json.optionalMember "oldIndex" Index.toJson c.old ++
    Json.optionalMember "newIndex" Index.toJson c.new ++
    [("description", .text c.description)]

def decode : Json.Decoder IndexChange :=
  Record.decode <| IndexChange.mk <$> .required "changeType" ChangeKind.decode
    <*> .required "tableName" text <*> .required "indexName" text
    <*> .optional "oldIndex" Index.decode <*> .optional "newIndex" Index.decode
    <*> .required "description" text

end IndexChange

namespace RelationshipChange

def toJson (c : RelationshipChange) : Json :=
  .object <|
    [("changeType", c.kind.toJson), ("key", .text c.key)] ++
    Json.optionalMember "oldRelationship" Relationship.toJson c.old ++
    Json.optionalMember "newRelationship" Relationship.toJson c.new ++
    [("description", .text c.description)]

def decode : Json.Decoder RelationshipChange :=
  Record.decode <| RelationshipChange.mk <$> .required "changeType" ChangeKind.decode
    <*> .required "key" text <*> .optional "oldRelationship" Relationship.decode
    <*> .optional "newRelationship" Relationship.decode <*> .required "description" text

end RelationshipChange

namespace Changes

def toJson (c : Changes) : Json :=
  .object
    [("tableChanges", Json.ofList TableChange.toJson c.tables),
     ("columnChanges", Json.ofList ColumnChange.toJson c.columns),
     ("indexChanges", Json.ofList IndexChange.toJson c.indexes),
     ("relationshipChanges", Json.ofList RelationshipChange.toJson c.relationships)]

def decode : Json.Decoder Changes :=
  Record.decode <| Changes.mk <$> .required "tableChanges" (list TableChange.decode)
    <*> .required "columnChanges" (list ColumnChange.decode)
    <*> .required "indexChanges" (list IndexChange.decode)
    <*> .required "relationshipChanges" (list RelationshipChange.decode)

end Changes

end SchemaCodegen
