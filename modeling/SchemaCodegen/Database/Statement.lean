import SchemaCodegen.Database.Row
import SchemaCodegen.Procedure

/-!
# Statements on the metadata tables

What is asked of the database that keeps metadata, one statement at a time. Each statement is
answered by rows, by a number of rows, or by a fault.
-/

namespace SchemaCodegen

namespace Database

inductive Statement where
  /-- Creates the tables that are missing. -/
  | createTables
  | beginTransaction
  | commit
  /-- Undoes what was done since the transaction began. -/
  | rollback
  | selectTables
  | selectColumns
  /-- By index and place. -/
  | selectIndexColumns
  | selectIndexes
  | selectRelationships
  /-- The history of a table, or of all, the newest first. -/
  | selectHistory (table : Option String)
  /-- Inserts a row, or updates the one with its natural key. -/
  | upsertTable (row : TableRow)
  | upsertColumn (row : ColumnRow)
  | upsertIndex (row : IndexRow)
  | deleteIndexColumns (indexId : Uuid)
  | insertIndexColumn (row : IndexColumnRow)
  | upsertRelationship (row : RelationshipRow)
  | insertHistory (row : HistoryRow)
  /-- Sets when the tables with these natural keys were generated. -/
  | stampTables (time : Instant) (keys : List String)
deriving DecidableEq

namespace Statement

/-- What a statement is answered when the database does not fail. -/
def Answer : Statement → Type
  | .selectTables => List TableRow
  | .selectColumns => List ColumnRow
  | .selectIndexColumns => List IndexColumnRow
  | .selectIndexes => List IndexRow
  | .selectRelationships => List RelationshipRow
  | .selectHistory _ => List HistoryRow
  | .stampTables _ _ => UInt64
  | _ => Unit

/-- What a statement does and to which table; a query goes by its table. -/
def label : Statement → String
  | .createTables => "create tables"
  | .beginTransaction => "BEGIN"
  | .commit => "COMMIT"
  | .rollback => "ROLLBACK"
  | .selectTables => "c_table"
  | .selectColumns => "c_column"
  | .selectIndexColumns => "c_index_column"
  | .selectIndexes => "c_index"
  | .selectRelationships => "c_relationship"
  | .selectHistory _ => "c_generation_history"
  | .upsertTable _ => "upsert c_table"
  | .upsertColumn _ => "upsert c_column"
  | .upsertIndex _ => "upsert c_index"
  | .deleteIndexColumns _ => "delete c_index_column"
  | .insertIndexColumn _ => "insert c_index_column"
  | .upsertRelationship _ => "upsert c_relationship"
  | .insertHistory _ => "insert c_generation_history"
  | .stampTables _ _ => "stamp c_table"

/-- The values that are sent with a statement, in the order in which it names them. -/
def parameters : Statement → List Cell
  | .selectHistory table => [.ofOption .text table]
  | .upsertTable row => row.cells
  | .upsertColumn row => row.cells
  | .upsertIndex row => row.cells
  | .deleteIndexColumns indexId => [.id indexId]
  | .insertIndexColumn row => row.cells
  | .upsertRelationship row => row.cells
  | .insertHistory row => row.cells
  | .stampTables time keys => [.time time, .texts keys]
  | _ => []

end Statement

end Database

/-- What may be asked of a database. -/
def database : Interface where
  Call := Database.Statement
  Reply statement := Except Database.Fault statement.Answer

namespace Database

/-- A procedure of statements. -/
abbrev Work (α : Type) := Procedure database α

/-- One statement; its fault is the failure of the work. -/
def execute (statement : Statement) : Work statement.Answer :=
  ExceptT.mk do
    let reply : Except Fault statement.Answer ← Script.call (I := database) statement
    return reply.mapError Failure.database

/-- Work as one transaction: what it did is committed if it succeeds and undone if not. -/
def inTransaction {α : Type} (work : Work α) : Work α :=
  ExceptT.mk do
    match ← (do execute .beginTransaction; work : Work α).run with
    | .error failure => do
      let _ ← (execute .rollback).run
      return .error failure
    | .ok a => (do execute .commit; return a : Work α).run

end Database

end SchemaCodegen
