import SchemaCodegen.Machine
import SchemaCodegen.Snapshot.Format

/-!
# The stored snapshot

A snapshot is kept in one file, so that the next run has a baseline to compare with. New text is
written beside the file and renamed over it, so the file never holds half a snapshot.
-/

namespace SchemaCodegen.Snapshot

/-- Where new text is written before it replaces the file. -/
def temporaryPath (path : Path) : Path :=
  path.withExtension "json.tmp"

/-- Replaces the stored snapshot. -/
def save (path : Path) (s : Snapshot) : Job Unit := do
  match path.realParent? with
  | none => pure ()
  | some parent => Job.createDirectories parent
  Job.write (temporaryPath path) s.toText.toUTF8
  Job.rename (temporaryPath path) path

/-- The stored snapshot, if one was saved. -/
def load (path : Path) : Job (Option Snapshot) := do
  match ← Procedure.ofScript (Job.tryReadText path) with
  | .error .notFound => return none
  | .error fault => throw (.io fault)
  | .ok text => some <$> Procedure.ofOutcome (ofText text)

/-- Whether something is stored at the path; a path that cannot be looked at has nothing. -/
def isSaved (path : Path) : Script machine Bool := do
  match ← (Job.probe path).run with
  | .ok found => return found
  | .error _ => return false

end SchemaCodegen.Snapshot
