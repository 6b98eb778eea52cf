import SchemaCodegen.Generation.Context
import SchemaCodegen.Generation.Report
import SchemaCodegen.Metadata.Bookkeeping
import SchemaCodegen.Settings.ArtifactSpec

/-!
# Generation runs

One run over a snapshot: the metadata is synced and asked for a plan, every planned table gets its
artifacts rendered and written, and at the end the generated tables are stamped and all attempts
go to the history. What fails is a matter of its table; the run goes on with the next one.
-/

namespace SchemaCodegen

namespace Production

inductive Call where
  | render (template : String) (context : TableContext)
  | write (path : Path) (content : String)

def Reply : Call → Type
  | .render _ _ => Outcome String
  | .write _ _ => Outcome Output.Written

end Production

/-- What a run asks of those who render templates and write files. -/
def production : Interface where
  Call := Production.Call
  Reply := Production.Reply

def generation : Interface :=
  bookkeeping.sum production

/-- What is generated, where, and for which tables. -/
structure Generator where
  rules : Convention.Resolver
  artifacts : List ArtifactSpec
  outputRoot : Path
  /-- Whether tables without changes are generated too. -/
  includeUnchanged : Bool
deriving DecidableEq

/-- The flag for an artifact by the first part of its template's name; templates of no known
family are always generated. -/
def GenerationFlags.allows (flags : GenerationFlags) (template : String) : Bool :=
  match Text.asciiLower ((Text.splitOnChar template '/').headD "") with
  | "entity" | "entities" => flags.entity
  | "repository" | "repositories" => flags.repository
  | "controller" | "controllers" | "api" => flags.controller
  | "react" | "ui" => flags.reactUi
  | "sql" | "sp" => flags.storedProcedures
  | "cqrs" => flags.cqrs
  | _ => true

namespace Generator

/-- The table of a snapshot that a plan is about. -/
def tableOf? (s : Snapshot) (plan : TablePlan) : Option Table :=
  s.tables.find? fun t => t.name == plan.tableName && t.schemaName == plan.schemaName

/-- The artifacts that the flags of a table allow. -/
def enabled (g : Generator) (flags : GenerationFlags) : List ArtifactSpec :=
  g.artifacts.filter fun artifact => flags.allows artifact.template

/-- Where an artifact of a table goes. -/
def outputPath (g : Generator) (t : TableContext) (artifact : ArtifactSpec) : Path :=
  g.outputRoot.join (artifact.outputPath t.schema t.name).text

def produce (call : Production.Call) : Script generation (Production.Reply call) :=
  (Script.call (I := production) call).right

/-- Renders a template and writes what comes out. -/
def renderAndWrite (template : String) (t : TableContext) (path : Path) :
    Script generation (Outcome Output.Written) := do
  let rendered : Outcome String ← produce (.render template t)
  match rendered with
  | .error failure => return .error failure
  | .ok content => produce (.write path content)

/-- A protected target is no failure. -/
def resultOf (path : Path) : Outcome Output.Written → ArtifactResult
  | .ok written => .written written
  | .error failure => if failure.isProtected then .skipped path else .failed failure

def askMachine (call : Machine.Call) : Script generation (Machine.Reply call) :=
  Script.left (I := bookkeeping) (Script.left (I := machine) (Script.call (I := machine) call))

/-- Attempts one artifact of a table. -/
def attempt (g : Generator) (t : TableContext) (artifact : ArtifactSpec) :
    Script generation Attempt := do
  let path := g.outputPath t artifact
  let result := resultOf path (← renderAndWrite artifact.template t path)
  let id : Uuid ← askMachine .freshId
  let time : Instant ← askMachine .clock
  return ⟨{
      id := id
      schemaName := t.schema
      tableName := t.name
      artifact := artifact.template
      outputPath := path.text
      outcome := result.outcome
      error := result.failure?.map Failure.message
      generatedAt := time }, result⟩

/-- Attempts artifacts in turn, as far as the first failure. -/
def attemptEach (g : Generator) (t : TableContext) :
    List ArtifactSpec → Script generation (List Attempt)
  | [] => return []
  | artifact :: artifacts => do
    let first ← g.attempt t artifact
    match first.result with
    | .failed _ => return [first]
    | _ => return first :: (← attemptEach g t artifacts)

/-- The failure that ended the attempts on a table. -/
def lastFailure (attempts : List Attempt) : Option Failure :=
  attempts.getLast?.bind (·.result.failure?)

/-- Generates one table. -/
def generateTable (g : Generator) (s : Snapshot) (plan : TablePlan) :
    Script generation TableRun := do
  match tableOf? s plan with
  | none =>
    let name := plan.schemaName ++ "." ++ plan.tableName
    return ⟨plan, [], some (.notFound ("Table " ++ name ++ " in snapshot"))⟩
  | some table =>
    let context := TableContext.build g.rules s table
    let attempts ← g.attemptEach context (g.enabled plan.flags)
    return ⟨plan, attempts, lastFailure attempts⟩

/-- Generates tables in turn. -/
def generateTables (g : Generator) (s : Snapshot) :
    List TablePlan → Script generation (List TableRun)
  | [] => return []
  | plan :: plans => do
    let first ← g.generateTable s plan
    return first :: (← generateTables g s plans)

def ofBookkeeping {α : Type} (books : Bookkeeping α) : Procedure generation α :=
  books.left

/-- Brings the metadata in line with a snapshot and asks what to generate. -/
def prepare (g : Generator) (s : Snapshot) : Procedure generation (SyncResult × GenerationPlan) :=
  ofBookkeeping do
    let sync ← Bookkeeping.sync s
    return (sync, ← Bookkeeping.plan sync g.includeUnchanged)

/-- A run over a snapshot. It fails only where the metadata cannot be read or written. -/
def run (g : Generator) (s : Snapshot) : Procedure generation RunReport := do
  let startedAt : Instant ← ofBookkeeping (.ofJob Job.clock)
  let (sync, plan) ← g.prepare s
  let runs ← Procedure.ofScript (g.generateTables s plan.toGenerate)
  ofBookkeeping (Bookkeeping.markAllGenerated (TableRun.generatedKeys runs))
  ofBookkeeping (Bookkeeping.recordHistory (TableRun.history runs))
  let completedAt : Instant ← ofBookkeeping (.ofJob Job.clock)
  return RunReport.of startedAt completedAt sync runs

end Generator

end SchemaCodegen
