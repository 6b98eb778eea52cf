import SchemaCodegen.Metadata.Format
import SchemaCodegen.Repository.Basic

/-!
# The repository in memory

Metadata that lives as long as the program. It never fails, but for unknown keys.
-/

namespace SchemaCodegen.Repository.Memory

def answer : (call : Call) → MetadataDocument → Reply call × MetadataDocument
  | .load, d => (.ok d.state, d)
  | .persist metadata, d => (.ok (), { d with state := metadata })
  | .markGenerated keys time, d =>
    match d.state.markAllGenerated keys time with
    | .ok metadata => (.ok (), { d with state := metadata })
    | .error failure => (.error failure, d)
  | .recordHistory records, d => (.ok (), { d with history := d.history ++ records })
  | .history table, d => (.ok (HistoryRecord.select d.history table), d)

end SchemaCodegen.Repository.Memory
