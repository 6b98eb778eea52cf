import SchemaCodegen.Settings.ArtifactSpec
import SchemaCodegen.Url.Basic

/-!
# Settings

The settings of a generator, read from named text variables. A variable that is not set has a
default; one that cannot be read is a fault, and of several faults the first in reading order
counts: connections, database, backend, artifacts, unchanged tables.
-/

namespace SchemaCodegen

/-- Where metadata is kept. -/
inductive MetadataBackend where
  /-- A document beside the snapshot. -/
  | file
  /-- Nowhere; every run starts from nothing. -/
  | memory
  | postgres
deriving DecidableEq, Repr, Inhabited

namespace MetadataBackend

def name : MetadataBackend → String
  | .file => "file"
  | .memory => "memory"
  | .postgres => "postgres"

def names : List (String × MetadataBackend) :=
  [("file", .file), ("json", .file), ("memory", .memory), ("postgres", .postgres),
   ("postgresql", .postgres)]

/-- The backend of a name; case and blanks around it do not count. -/
def ofText (text : String) : Except Settings.Fault MetadataBackend :=
  let name := Text.asciiLower (Text.trim text)
  match names.lookup name with
  | some backend => .ok backend
  | none => .error (.invalid
      ("METADATA_BACKEND must be 'file', 'memory' or 'postgres', got '" ++ name ++ "'"))

end MetadataBackend

/-- How a database is reached. -/
structure DatabaseSettings where
  host : String
  port : Nat
  user : String
  password : String
  database : String
  maxConnections : Nat
  useTls : Bool
deriving DecidableEq, Repr

namespace DatabaseSettings

def defaultPort : Nat := 5432

/-- A provider that refuses plain connections. -/
def hostedDomain : String := "neon.tech"

/-- Whether the query of a URL asks for an encrypted connection. -/
def asksForTls (url : Url) : Bool :=
  url.queryPairs.any fun (name, value) =>
    name == "sslmode" && (value == "require" || value == "verify-full")

/-- The settings that a URL holds. User, password and database stay escaped. -/
def ofUrl (text : String) (maxConnections : Nat) : Except Settings.Fault DatabaseSettings := do
  let some url := Url.ofText? text
    | throw (.invalid "Invalid DATABASE_URL format (expected postgresql://...)")
  let some host := url.host
    | throw (.invalid "Missing host in DATABASE_URL")
  let database := String.ofList (url.path.toList.dropWhile (· == '/'))
  if database.isEmpty then throw (.invalid "Missing database name in DATABASE_URL")
  return {
    host := host
    port := url.port.getD defaultPort
    user := url.username
    password := url.password.getD ""
    database := database
    maxConnections := maxConnections
    useTls := Text.contains host hostedDomain || asksForTls url }

end DatabaseSettings

structure Settings where
  database : Option DatabaseSettings
  templateRoot : Path
  outputRoot : Path
  snapshotPath : Path
  metadataBackend : MetadataBackend
  /-- Where a backend that writes a document puts it. -/
  metadataPath : Path
  artifacts : List ArtifactSpec
  includeUnchanged : Bool
deriving DecidableEq, Repr

namespace Settings

/-- The bound of counts, which have 64 bits. -/
def countBound : Nat := 1 <<< 64

/-- A count in decimal digits, a plus sign before them being allowed. -/
def count? (cs : List Char) : Option Nat :=
  let digits := match cs with
    | '+' :: rest => rest
    | cs => cs
  let n := Json.digitsValue digits
  if digits.isEmpty || !digits.all Char.isDigit || countBound ≤ n then none else some n

def defaultConnections : Nat := 10

def connectionsOf (text : String) : Except Fault Nat :=
  match count? (Text.trimChars text.toList) with
  | some n => .ok n
  | none => .error (.invalid ("DB_MAX_CONNECTIONS must be a number, got '" ++ text ++ "'"))

/-- The value of a switch that is on or off. -/
def switch? (text : String) : Option Bool :=
  let word := Text.asciiLower (Text.trim text)
  if ["1", "true", "yes", "on"].contains word then some true
  else if ["0", "false", "no", "off", ""].contains word then some false
  else none

def includeUnchangedOf (text : String) : Except Fault Bool :=
  match switch? text with
  | some value => .ok value
  | none => .error (.invalid ("INCLUDE_UNCHANGED must be true or false, got '" ++ text ++ "'"))

def defaultArtifacts : String := "entity:" ++ ArtifactSpec.tablePlace ++ ".cs"

def metadataFileName : String := "metadata.json"

/-- The metadata file beside a snapshot. -/
def metadataPathFor (snapshotPath : Path) : Path :=
  match snapshotPath.parent? with
  | some directory => directory.join metadataFileName
  | none => ⟨metadataFileName⟩

/-- A setting by its variable, if that is set. -/
def read {α : Type} (parse : String → Except Fault α) (value : Option String) :
    Except Fault (Option α) :=
  match value with
  | some text => some <$> parse text
  | none => .ok none

/-- The settings that variables hold. -/
def ofVariables (value? : String → Option String) : Except Fault Settings := do
  let maxConnections :=
    (← read connectionsOf (value? "DB_MAX_CONNECTIONS")).getD defaultConnections
  let database ← read (DatabaseSettings.ofUrl · maxConnections) (value? "DATABASE_URL")
  let backend := (← read MetadataBackend.ofText (value? "METADATA_BACKEND")).getD .file
  if backend = .postgres ∧ database.isNone then throw (.missing "DATABASE_URL")
  let artifacts ← ArtifactSpec.listOfText ((value? "ARTIFACTS").getD defaultArtifacts)
  let includeUnchanged := (← read includeUnchangedOf (value? "INCLUDE_UNCHANGED")).getD false
  let path (name fallback : String) : Path := ⟨(value? name).getD fallback⟩
  let snapshotPath := path "SNAPSHOT_PATH" ".schemaforge/snapshot.json"
  return {
    database := database
    templateRoot := path "TEMPLATE_ROOT" "templates"
    outputRoot := path "OUTPUT_ROOT" "generated"
    snapshotPath := snapshotPath
    metadataBackend := backend
    metadataPath := ((value? "METADATA_PATH").map Path.mk).getD (metadataPathFor snapshotPath)
    artifacts := artifacts
    includeUnchanged := includeUnchanged }

end Settings

end SchemaCodegen
