import SchemaCodegen.Instant
import SchemaCodegen.Procedure
import SchemaCodegen.Uuid

/-!
# The machine

What a script may ask of the machine that it runs on: the disk, the clock, names and identities
that are not in use, and whether its caller still waits. `World` is a machine that works without
faults.
-/

namespace SchemaCodegen

/-- The kinds of records that have an identity. -/
inductive RecordKind where
  | table
  | column
  | index
  | relationship
deriving DecidableEq, Repr

/-- A record by its kind and natural key. -/
structure RecordKey where
  kind : RecordKind
  key : String
deriving DecidableEq, Repr

namespace Machine

inductive Call where
  | createDirectories (path : Path)
  | write (path : Path) (content : ByteArray)
  | read (path : Path)
  | probe (path : Path)
  | copy (source target : Path)
  | rename (source target : Path)
  | remove (path : Path)
  | list (path : Path)
  | workingDirectory
  | clock
  /-- One identity that is not in use. -/
  | freshId
  /-- Identities that are not in use, a different one for each of the keys. -/
  | freshIds (keys : List RecordKey)
  /-- Whether the caller has gone away. -/
  | isCancelled

def Reply : Call → Type
  | .createDirectories _ => Except Disk.Fault Unit
  | .write _ _ => Except Disk.Fault Unit
  | .read _ => Except Disk.Fault ByteArray
  | .probe _ => Except Disk.Fault Bool
  | .copy _ _ => Except Disk.Fault Unit
  | .rename _ _ => Except Disk.Fault Unit
  | .remove _ => Except Disk.Fault Unit
  | .list _ => Except Disk.Fault (List (String × Bool))
  | .workingDirectory => Path
  | .clock => Instant
  | .freshId => Uuid
  | .freshIds _ => RecordKey → Uuid
  | .isCancelled => Bool

end Machine

def machine : Interface where
  Call := Machine.Call
  Reply := Machine.Reply

/-- A procedure on the machine. -/
abbrev Job (α : Type) := Procedure machine α

namespace Job

variable {α : Type}

/-- Asks a question that is always answered. -/
def ask (call : Machine.Call) : Job (Machine.Reply call) :=
  Procedure.ofScript (Script.call (I := machine) call)

/-- A job that asks the disk; a fault is the job's failure. -/
def ofDisk (script : Script machine (Except Disk.Fault α)) : Job α :=
  ExceptT.mk do return Disk.outcome (← script)

def createDirectories (path : Path) : Job Unit :=
  ofDisk (Script.call (I := machine) (.createDirectories path))

def write (path : Path) (content : ByteArray) : Job Unit :=
  ofDisk (Script.call (I := machine) (.write path content))

def probe (path : Path) : Job Bool :=
  ofDisk (Script.call (I := machine) (.probe path))

def copy (source target : Path) : Job Unit :=
  ofDisk (Script.call (I := machine) (.copy source target))

def rename (source target : Path) : Job Unit :=
  ofDisk (Script.call (I := machine) (.rename source target))

def list (path : Path) : Job (List (String × Bool)) :=
  ofDisk (Script.call (I := machine) (.list path))

def clock : Job Instant :=
  ask .clock

def freshId : Job Uuid :=
  ask .freshId

/-- The bytes of a file, or the fault. -/
def readBytes (path : Path) : Script machine (Except Disk.Fault ByteArray) :=
  Script.call (I := machine) (.read path)

/-- The content of a text file, or the fault. -/
def tryReadText (path : Path) : Script machine (Except Disk.Fault String) := do
  match ← readBytes path with
  | .error fault => return .error fault
  | .ok bytes =>
    match String.fromUTF8? bytes with
    | some text => return .ok text
    | none => return .error .notText

/-- Removes a file; whether that works does not matter. -/
def discard (path : Path) : Script machine Unit := do
  let _ ← Script.call (I := machine) (.remove path)

/-- The job, followed by `cleanUp` if it fails. -/
def orElseRun (job : Job α) (cleanUp : Script machine Unit) : Job α :=
  ExceptT.mk do
    match ← job.run with
    | .ok a => return .ok a
    | .error failure => do
      cleanUp
      return .error failure

end Job

/-! ## A machine without faults -/

structure World where
  disk : Disk
  /-- The next reading of the clock. -/
  now : Instant
  /-- How many identities were given out. -/
  issued : Nat
  cancelled : Bool
deriving Inhabited

namespace World

/-- The clock goes on by a microsecond with every reading. -/
def tick (t : Instant) : Instant :=
  if t.nanos + 1000 < 1000000000 then { t with nanos := t.nanos + 1000 }
  else ⟨t.seconds + 1, 0⟩

/-- The world after a disk operation. -/
def withDisk (world : World) (result : Except Disk.Fault Disk) : Except Disk.Fault Unit × World :=
  match result with
  | .ok disk => (.ok (), { world with disk := disk })
  | .error fault => (.error fault, world)

def answer : (call : Machine.Call) → World → Machine.Reply call × World
  | .createDirectories path, w =>
    let (result, disk) := w.disk.createDirectories path
    (result, { w with disk := disk })
  | .write path content, w => w.withDisk (w.disk.writeFile path content)
  | .read path, w => (w.disk.readFile path, w)
  | .probe path, w => (w.disk.probe path, w)
  | .copy source target, w => w.withDisk (w.disk.copyFile source target)
  | .rename source target, w => w.withDisk (w.disk.rename source target)
  | .remove path, w => w.withDisk (w.disk.removeFile path)
  | .list path, w => (w.disk.listDirectory path, w)
  | .workingDirectory, w => (⟨"/" ++ String.intercalate "/" w.disk.workingDirectory⟩, w)
  | .clock, w => (w.now, { w with now := tick w.now })
  | .freshId, w => (Uuid.ofNumber w.issued, { w with issued := w.issued + 1 })
  | .freshIds keys, w =>
    (fun key => Uuid.ofNumber (w.issued + keys.idxOf key),
      { w with issued := w.issued + keys.length + 1 })
  | .isCancelled, w => (w.cancelled, w)

/-- Runs a job on the machine. -/
def run {α : Type} (job : Job α) (world : World) : Outcome α × World :=
  Script.run (I := machine) answer job.run world

end World

end SchemaCodegen
