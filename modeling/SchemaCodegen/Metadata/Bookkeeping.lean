import SchemaCodegen.Machine
import SchemaCodegen.Metadata.Plan
import SchemaCodegen.Repository.Basic

/-!
# Bookkeeping

The metadata in a repository, kept up to date: synced with snapshots, stamped for tables that were
generated, and asked for plans. Each operation loads, decides and persists; between these others
may use the repository.
-/

namespace SchemaCodegen

/-- Bookkeeping asks the machine for times and identities, and a repository for metadata. -/
def bookkeeping : Interface :=
  machine.sum repository

abbrev Bookkeeping (α : Type) := Procedure bookkeeping α

namespace Bookkeeping

variable {α : Type}

def ofJob (job : Job α) : Bookkeeping α :=
  job.left

def ask (call : Repository.Call) : Script bookkeeping (Repository.Reply call) :=
  (Script.call (I := repository) call).right

def load : Bookkeeping Metadata :=
  ExceptT.mk (ask .load)

def persist (m : Metadata) : Bookkeeping Unit :=
  ExceptT.mk (ask (.persist m))

/-- Brings the metadata in line with a snapshot. -/
def sync (s : Snapshot) : Bookkeeping SyncResult := do
  let m ← load
  let now : Instant ← ofJob Job.clock
  let fresh : RecordKey → Uuid ← ofJob (Job.ask (.freshIds s.recordKeys))
  let (m, result) := m.sync fresh now s
  persist m
  return result

/-- How many active tables have another hash than before, or none before. -/
def changedTablesCount : Bookkeeping Nat := do
  return (← load).changedTablesCount

/-- Notes that the tables with these natural keys were generated. -/
def markAllGenerated (keys : List String) : Bookkeeping Unit := do
  if keys.isEmpty then return ()
  let now : Instant ← ofJob Job.clock
  ExceptT.mk (ask (.markGenerated keys now))

def markGenerated (schema table : String) : Bookkeeping Unit :=
  markAllGenerated [tableKey schema table]

def recordHistory (records : List HistoryRecord) : Bookkeeping Unit := do
  if records.isEmpty then return ()
  ExceptT.mk (ask (.recordHistory records))

/-- The history of a table, or of all, the newest records first. -/
def history (table : Option String) : Bookkeeping (List HistoryRecord) :=
  ExceptT.mk (ask (.history table))

/-- What to generate after a sync. -/
def plan (sync : SyncResult) (includeUnchanged : Bool) : Bookkeeping GenerationPlan := do
  let m ← load
  let now : Instant ← ofJob Job.clock
  return GenerationPlan.build m sync includeUnchanged now

/-- Replaces the flags of a table if it is known. -/
def setFlags (key : String) (flags : GenerationFlags) : Bookkeeping Unit := do
  let m ← load
  persist (m.setFlags key flags)

end Bookkeeping

end SchemaCodegen
