import SchemaCodegen.Catalog.Assembly
import SchemaCodegen.Machine

/-!
# Introspection

Asks the catalog of a database for everything that a snapshot holds.
-/

namespace SchemaCodegen

/-- Introspection asks the machine for the time and the catalog for rows. -/
def introspecting : Interface :=
  machine.sum catalog

namespace Catalog

abbrev Inquiry (α : Type) := Procedure introspecting α

def query (q : Query) : Inquiry (List q.Row) :=
  ExceptT.mk do
    let reply : Except Database.Fault (List q.Row) ← (Script.call (I := catalog) q).right
    return reply.mapError Failure.database

/-- The only row that answers a query. -/
def queryOne (q : Query) : Inquiry q.Row := do
  match ← query q with
  | [row] => return row
  | _ => throw (.database .rowCount)

def clock : Inquiry Instant :=
  Job.clock.left

/-- A table without its indexes, its key being asked for first. -/
def readTable (rules : Convention.Resolver) (row : TableRow) : Inquiry Table := do
  let primaryKey ← query (.primaryKey row.schemaName row.tableName)
  let columns ← query (.columns row.schemaName row.tableName)
  return row.table rules primaryKey columns

/-- The snapshot of a database. -/
def introspect (rules : Convention.Resolver) : Inquiry Snapshot := do
  let info : DatabaseRow ← queryOne .info
  let tables ← (firstOfEachName [] (← query .tables)).mapM (readTable rules)
  let tables := attachIndexes (indexesByTable (← query .indexes)) tables
  let foreignKeys : List ForeignKeyRow ← query .foreignKeys
  let analyzedAt ← clock
  Procedure.ofOutcome (Snapshot.validated {
    databaseName := info.databaseName
    serverName := info.serverName
    version := info.version
    analyzedAt := analyzedAt
    tables := markForeignKeys tables foreignKeys
    relationships := relationshipsOf tables foreignKeys })

end Catalog

end SchemaCodegen
