import SchemaCodegen.Metadata.History
import SchemaCodegen.Script

/-!
# Metadata repositories

What a keeper of metadata can be asked: the records as a whole, stamps on generated tables, and
the generation history. Each question is answered in one step, and each answer may be a failure.
-/

namespace SchemaCodegen

namespace Repository

inductive Call where
  | load
  | persist (metadata : Metadata)
  /-- Notes that the tables with these keys were generated; none of them if a key is unknown. -/
  | markGenerated (keys : List String) (time : Instant)
  | recordHistory (records : List HistoryRecord)
  /-- The history of a table, or of all, the newest records first. -/
  | history (table : Option String)

def Reply : Call → Type
  | .load => Outcome Metadata
  | .persist _ => Outcome Unit
  | .markGenerated _ _ => Outcome Unit
  | .recordHistory _ => Outcome Unit
  | .history _ => Outcome (List HistoryRecord)

end Repository

def repository : Interface where
  Call := Repository.Call
  Reply := Repository.Reply

end SchemaCodegen
