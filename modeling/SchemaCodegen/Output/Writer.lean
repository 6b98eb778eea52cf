import SchemaCodegen.Json.Printer
import SchemaCodegen.Machine
import SchemaCodegen.Output.Lock
import SchemaCodegen.Output.Protection

/-!
# Writing generated files

The only way from generators to the disk. New content goes to a temporary file beside the target,
what the target held is copied to a backup, and the temporary file is renamed over the target.
A writing that fails or is cancelled removes its temporary file and its backup, so it leaves the
files as they were.
-/

namespace SchemaCodegen.Output

/-- What a writing did. -/
structure Written where
  path : Path
  /-- Where the previous content went, if there was one. -/
  backup : Option Path
  bytes : Nat
deriving DecidableEq, Repr

namespace Written

def toJson (w : Written) : Json :=
  .object
    [("path", .text w.path.text), ("backup", Json.ofOption (fun p => .text p.text) w.backup),
     ("bytes", Json.ofNat w.bytes)]

end Written

/-- Refuses paths that nothing can be written to. -/
def checkPath (path : Path) : Outcome Unit :=
  if path.isEmpty then .error (.invalidArgument "File path must not be empty")
  else path.ensureWritable

def cancelled (path : Path) : Failure :=
  .internal ("Write to " ++ path.text ++ " was cancelled")

def checkCancelled (path : Path) : Job Unit := do
  let isCancelled : Bool ← Job.ask .isCancelled
  if isCancelled then throw (cancelled path)

/-- The temporary file of a target. -/
def temporaryPath (path : Path) (id : Uuid) : Path :=
  path.withFileName ("." ++ path.fileName?.getD "" ++ "." ++ id.simple ++ ".tmp")

/-! ## Backups -/

def plainBackup (path : Path) : Path :=
  path.withSuffix "bak"

def stampedBackup (path : Path) (stamp : String) : Path :=
  path.withSuffix (stamp ++ ".bak")

def numberedBackup (path : Path) (stamp : String) (n : Nat) : Path :=
  path.withSuffix (stamp ++ "_" ++ toString n ++ ".bak")

/-- How many numbers are tried for a backup. -/
def backupLimit : Nat := 1 <<< 32 - 1

/-- The first numbered backup that does not exist, of a number of them from `n` on. -/
def freeNumberedBackup (path : Path) (stamp : String) : Nat → Nat → Job Path
  | 0, _ => throw (.internal ("No free backup name for " ++ path.text))
  | tries + 1, n => do
    let candidate := numberedBackup path stamp n
    if ← Job.probe candidate then freeNumberedBackup path stamp tries (n + 1)
    else return candidate

/-- A backup that does not exist: without a time stamp, with one, or with a number behind it. -/
def freeBackup (path : Path) : Job Path := do
  let plain := plainBackup path
  if !(← Job.probe plain) then return plain
  let stamp := (← Job.clock).stamp
  let stamped := stampedBackup path stamp
  if !(← Job.probe stamped) then return stamped
  freeNumberedBackup path stamp backupLimit 1

/-- Copies what a path holds to a backup. -/
def backUp (path : Path) : Job Path := do
  let backup ← freeBackup path
  Job.orElseRun (Job.copy path backup) (Job.discard backup)
  return backup

/-- Backs up what a path holds, if something is there. -/
def backUpExisting (path : Path) : Job (Option Path) := do
  if ← Job.probe path then some <$> backUp path
  else return none

def discardBackup : Option Path → Script machine Unit
  | none => return ()
  | some backup => Job.discard backup

/-! ## Writing -/

def createParents (path : Path) : Job Unit :=
  match path.realParent? with
  | none => pure ()
  | some parent => Job.createDirectories parent

/-- Puts the temporary file in the place of its target. -/
def moveOver (temporary path : Path) : Job Unit := do
  checkCancelled path
  Job.rename temporary path

/-- Puts content at a path by way of the temporary file. -/
def install (temporary path : Path) (content : ByteArray) : Job Written := do
  Job.write temporary content
  let backup ← backUpExisting path
  Job.orElseRun (moveOver temporary path) (discardBackup backup)
  return ⟨path, backup, content.size⟩

/-- Puts content at a path. The caller holds the lock of the path. -/
def replaceContent (path : Path) (content : String) : Job Written := do
  checkCancelled path
  createParents path
  let temporary := temporaryPath path (← Job.freshId)
  Job.orElseRun (install temporary path content.toUTF8) (Job.discard temporary)

/-- Replaces the only occurrence of an anchor in a file. The caller holds the lock of the path. -/
def replaceAnchor (path : Path) (anchor replacement : String) : Job Written := do
  match ← Procedure.ofScript (Job.tryReadText path) with
  | .error .notFound => throw (.notFound ("File " ++ path.text))
  | .error fault => throw (.io fault)
  | .ok content =>
    let subject := "Anchor text '" ++ anchor ++ "' in " ++ path.text
    match Text.count content anchor with
    | 0 => throw (.notFound subject)
    | 1 => replaceContent path (Text.replaceFirst content anchor replacement)
    | count => throw (.ambiguous subject count)

/-- Writers ask the machine and for locks. -/
def writing : Interface :=
  machine.sum locking

/-- A procedure on the machine and the locks. -/
abbrev Task (α : Type) := Procedure writing α

namespace Task

variable {α : Type}

def ofJob (job : Job α) : Task α :=
  job.left

def askLocks (call : Locks.Call) : Script writing (Locks.Reply call) :=
  (Script.call (I := locking) call).right

/-- Runs a job on a path while holding its lock. All spellings of a path have one lock. -/
def locked (path : Path) (job : Job α) : Task α := do
  let base ← ofJob (Job.ask .workingDirectory)
  let key := Path.absoluteFrom base path
  ExceptT.mk do
    let lock ← askLocks (.lease key)
    askLocks (.hold lock)
    let result ← (ofJob job).run
    askLocks (.release key lock true)
    return result

end Task

/-- Writes content to a path; a file that is there is backed up. -/
def write (path : Path) (content : String) : Task Written := do
  Procedure.ofOutcome (checkPath path)
  Task.locked path (replaceContent path content)

/-- Replaces the only occurrence of an anchor in a file, which is backed up. -/
def update (path : Path) (anchor replacement : String) : Task Written := do
  Procedure.ofOutcome (checkPath path)
  if anchor.isEmpty then throw (.invalidArgument "Anchor text must not be empty")
  Task.locked path (replaceAnchor path anchor replacement)

/-- Whether something is at the path; a path that cannot be looked at has nothing. -/
def fileExists (path : Path) : Script machine Bool := do
  match ← (Job.probe path).run with
  | .ok found => return found
  | .error _ => return false

def ensureDirectory (path : Path) : Job Unit := do
  if path.isEmpty then throw (.invalidArgument "Directory path must not be empty")
  Job.createDirectories path

/-- Runs a writer's script alone. -/
def runAlone {α : Type} (task : Task α) (world : World) (locks : Locks) :
    Outcome α × World × Locks :=
  Script.run (I := machine.sum locking) (Script.answerSum World.answer Locks.answer) task.run
    (world, locks)

end SchemaCodegen.Output
