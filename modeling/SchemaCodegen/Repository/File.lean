import SchemaCodegen.Machine
import SchemaCodegen.Metadata.Format
import SchemaCodegen.Repository.Basic

/-!
# The repository in a file

The metadata and the generation history as one document on the disk. Every change reads the
document, changes it and replaces the file by renaming a new one over it, so a change that fails
leaves the document as it was. A file that does not exist is an empty document.
-/

namespace SchemaCodegen.Repository.File

/-- The document of a file. -/
def readDocument (path : Path) : Job MetadataDocument := do
  match ← Procedure.ofScript (Job.tryReadText path) with
  | .error .notFound => return .empty
  | .error fault => throw (.io fault)
  | .ok text => Procedure.ofOutcome (MetadataDocument.ofText text)

/-- Where a new document is written before it replaces the file. -/
def temporaryPath (path : Path) (id : Uuid) : Path :=
  path.withExtension (id.simple ++ ".tmp")

/-- Replaces the document of a file. -/
def writeDocument (path : Path) (document : MetadataDocument) : Job Unit := do
  match path.realParent? with
  | none => pure ()
  | some parent => Job.createDirectories parent
  let temporary := temporaryPath path (← Job.freshId)
  Job.write temporary document.toText.toUTF8
  Job.orElseRun (Job.rename temporary path) (Job.discard temporary)

/-- Changes the document of a file. -/
def changeDocument (path : Path) (change : MetadataDocument → Outcome MetadataDocument) :
    Job Unit := do
  let document ← readDocument path
  writeDocument path (← Procedure.ofOutcome (change document))

def answer (path : Path) : (call : Call) → Script machine (Reply call)
  | .load => (do return (← readDocument path).state : Job Metadata).run
  | .persist metadata => (changeDocument path fun d => .ok { d with state := metadata }).run
  | .markGenerated keys time =>
    (changeDocument path fun d => do
      return { d with state := ← d.state.markAllGenerated keys time }).run
  | .recordHistory records =>
    (changeDocument path fun d => .ok { d with history := d.history ++ records }).run
  | .history table =>
    (do return HistoryRecord.select (← readDocument path).history table :
      Job (List HistoryRecord)).run

end SchemaCodegen.Repository.File
