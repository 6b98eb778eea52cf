import Std.Data.ExtTreeMap
import SchemaCodegen.Disk.Path

/-!
# The disk

A tree of directories and files without links, kept as a map from locations to entries. Each
operation answers a value or a fault, and the faults are those of a POSIX system: a path is
walked name by name from the working directory, every name but the last has to be a directory,
and the operation decides what the last one may be.
-/

namespace SchemaCodegen.Disk

/-- Why an operation on the disk fails. -/
inductive Fault where
  | notFound
  | alreadyExists
  | notDirectory
  | isDirectory
  | nameTooLong
  | busy
  /-- The path holds a character that no path can hold. -/
  | nulInPath
  /-- A file that is read as text is not UTF-8. -/
  | notText
  /-- The source of a copy is not a file. -/
  | notRegularFile
deriving DecidableEq, Repr, Inhabited

def Fault.message : Fault → String
  | .notFound => "No such file or directory (os error 2)"
  | .alreadyExists => "File exists (os error 17)"
  | .notDirectory => "Not a directory (os error 20)"
  | .isDirectory => "Is a directory (os error 21)"
  | .nameTooLong => "File name too long (os error 36)"
  | .busy => "Device or resource busy (os error 16)"
  | .nulInPath => "file name contained an unexpected NUL byte"
  | .notText => "stream did not contain valid UTF-8"
  | .notRegularFile =>
    "the source path is neither a regular file nor a symlink to a regular file"

/-- The names that lead from the root to an entry, outermost first. -/
abbrev Location := List String

inductive Entry where
  | directory
  | file (content : ByteArray)

instance : DecidableEq Entry
  | .directory, .directory => .isTrue rfl
  | .directory, .file _ => .isFalse nofun
  | .file _, .directory => .isFalse nofun
  | .file a, .file b =>
    match ByteArray.instDecidableEq a b with
    | .isTrue h => .isTrue (congrArg Entry.file h)
    | .isFalse h => .isFalse fun e => h (Entry.file.inj e)

instance : Inhabited Entry := ⟨.directory⟩

end Disk

/-- All entries but the root, and the working directory. -/
structure Disk where
  entries : Std.ExtTreeMap Disk.Location Disk.Entry
  workingDirectory : Disk.Location
deriving DecidableEq

namespace Disk

instance : Inhabited Disk := ⟨⟨∅, []⟩⟩

/-- A disk that holds nothing but the working directory. -/
def empty (workingDirectory : Location) : Disk where
  entries := ((List.range workingDirectory.length).map fun n => workingDirectory.take (n + 1)).foldl
    (fun entries location => entries.insert location .directory) ∅
  workingDirectory := workingDirectory

/-- The entry at a location; the root is a directory. -/
def entry? (disk : Disk) (location : Location) : Option Entry :=
  if location.isEmpty then some .directory else disk.entries[location]?

def insert (disk : Disk) (location : Location) (entry : Entry) : Disk :=
  { disk with entries := disk.entries.insert location entry }

def erase (disk : Disk) (location : Location) : Disk :=
  { disk with entries := disk.entries.erase location }

/-! ## Walking paths -/

/-- The longest name, in bytes. -/
def nameLimit : Nat := 255

/-- The longest path, in bytes. -/
def pathLimit : Nat := 4095

def isTooLong (name : String) : Bool :=
  nameLimit < name.utf8ByteSize

/-- One step of a walk, from a directory into a directory. -/
def enter (disk : Disk) (location : Location) (segment : String) : Except Fault Location :=
  if Path.isIdle segment then .ok location
  else if segment == ".." then .ok location.dropLast
  else if isTooLong segment then .error .nameTooLong
  else
    match disk.entry? (location ++ [segment]) with
    | none => .error .notFound
    | some (.file _) => .error .notDirectory
    | some .directory => .ok (location ++ [segment])

/-- Where a path leads, as far as its last name. -/
structure Target where
  /-- The directory that the last name is looked up in. -/
  directory : Location
  /-- The last name; none if the path ends in `.`, `..` or the root. -/
  name? : Option String
  /-- A slash behind the last name. -/
  asDirectory : Bool

def Target.location (target : Target) : Location :=
  target.directory ++ target.name?.toList

/-- Walks a path as far as its last name. -/
def locate (disk : Disk) (p : Path) : Except Fault Target := do
  if p.isEmpty then throw .notFound
  if p.text.toList.contains '\x00' then throw .nulInPath
  if pathLimit < p.text.utf8ByteSize then throw .nameTooLong
  let segments := p.segments
  let trailing := segments.getLast? == some ""
  let steps := segments.filter (· != "")
  let start := if p.isAbsolute then [] else disk.workingDirectory
  match steps.getLast? with
  | none => return ⟨start, none, true⟩
  | some last =>
    let directory ← steps.dropLast.foldlM disk.enter start
    if last == "." || last == ".." then
      return ⟨← disk.enter directory last, none, true⟩
    else return ⟨directory, some last, trailing⟩

/-- The entry a target names, if there is one. -/
def find (disk : Disk) (target : Target) : Except Fault (Option Entry) :=
  match target.name? with
  | none => .ok (some .directory)
  | some name =>
    if isTooLong name then .error .nameTooLong else .ok (disk.entry? (target.directory ++ [name]))

/-- The entry at a path that has to exist. -/
def stat (disk : Disk) (p : Path) : Except Fault (Location × Entry) := do
  let target ← disk.locate p
  match ← disk.find target with
  | none => .error .notFound
  | some (.file content) =>
    if target.asDirectory then .error .notDirectory else .ok (target.location, .file content)
  | some .directory => .ok (target.location, .directory)

def isDirectory (disk : Disk) (p : Path) : Bool :=
  match disk.stat p with
  | .ok (_, .directory) => true
  | _ => false

/-! ## Operations -/

/-- Whether something is at the path. -/
def probe (disk : Disk) (p : Path) : Except Fault Bool :=
  match disk.stat p with
  | .ok _ => .ok true
  | .error .notFound => .ok false
  | .error fault => .error fault

/-- The content of a file. -/
def readFile (disk : Disk) (p : Path) : Except Fault ByteArray := do
  match ← disk.stat p with
  | (_, .file content) => .ok content
  | (_, .directory) => .error .isDirectory

/-- Creates a file or replaces its content. -/
def writeFile (disk : Disk) (p : Path) (content : ByteArray) : Except Fault Disk := do
  let target ← disk.locate p
  if target.asDirectory then throw .isDirectory
  match ← disk.find target with
  | some .directory => .error .isDirectory
  | _ => .ok (disk.insert target.location (.file content))

def createDirectory (disk : Disk) (p : Path) : Except Fault Disk := do
  let target ← disk.locate p
  match target.name?, ← disk.find target with
  | none, _ => .error .alreadyExists
  | some _, some _ => .error .alreadyExists
  | some _, none => .ok (disk.insert target.location .directory)

/-- A directory that is there already is as good as one that was created. -/
def settle (disk : Disk) (p : Path) : Except Fault Disk → Except Fault Unit × Disk
  | .ok disk => (.ok (), disk)
  | .error fault =>
    if fault = .alreadyExists ∧ disk.isDirectory p then (.ok (), disk) else (.error fault, disk)

/-- Creates a directory, and before it those above it that are missing, from the innermost
existing one on. What was created stays when a later step fails. `depth` bounds how far up the
search goes. -/
def createDirectoriesFrom (disk : Disk) : Nat → Path → Except Fault Unit × Disk
  | 0, _ => (.error .notFound, disk)
  | depth + 1, p =>
    if p.isEmpty || p.parent?.isNone then (.ok (), disk)
    else
      match disk.createDirectory p with
      | .error .notFound =>
        match createDirectoriesFrom disk depth (p.parent?.getD ⟨""⟩) with
        | (.ok (), disk) => disk.settle p (disk.createDirectory p)
        | (.error fault, disk) => (.error fault, disk)
      | result => disk.settle p result

def createDirectories (disk : Disk) (p : Path) : Except Fault Unit × Disk :=
  createDirectoriesFrom disk (p.segments.length + 2) p

/-- Writes the content of one file to another. -/
def copyFile (disk : Disk) (source target : Path) : Except Fault Disk := do
  match ← disk.stat source with
  | (_, .directory) => .error .notRegularFile
  | (_, .file content) => disk.writeFile target content

/-- Moves a file, replacing a file that is there already. -/
def rename (disk : Disk) (source target : Path) : Except Fault Disk := do
  let origin ← disk.locate source
  let goal ← disk.locate target
  if origin.name?.isNone || goal.name?.isNone then throw .busy
  match ← disk.find origin with
  | none => .error .notFound
  | some .directory => .error .isDirectory
  | some (.file content) =>
    let there ← disk.find goal
    if origin.asDirectory || goal.asDirectory then throw .notDirectory
    match there with
    | some .directory => .error .isDirectory
    | _ => .ok ((disk.erase origin.location).insert goal.location (.file content))

def removeFile (disk : Disk) (p : Path) : Except Fault Disk := do
  match ← disk.stat p with
  | (_, .directory) => .error .isDirectory
  | (location, .file _) => .ok (disk.erase location)

/-- The entries directly below a location, by name. -/
def children (disk : Disk) (location : Location) : List (String × Entry) :=
  disk.entries.toList.filterMap fun (place, entry) =>
    match place.getLast? with
    | some name => if place = location ++ [name] then some (name, entry) else none
    | none => none

/-- The names in a directory, and whether each is a directory. -/
def listDirectory (disk : Disk) (p : Path) : Except Fault (List (String × Bool)) := do
  match ← disk.stat p with
  | (_, .file _) => .error .notDirectory
  | (location, .directory) =>
    .ok ((disk.children location).map fun (name, entry) => (name, entry == .directory))

/-- Removes a file, or a directory with all that is in it. -/
def removeAll (disk : Disk) (p : Path) : Except Fault Disk := do
  let (location, _) ← disk.stat p
  .ok { disk with entries := disk.entries.filter fun place _ => !location.isPrefixOf place }

end Disk

end SchemaCodegen
