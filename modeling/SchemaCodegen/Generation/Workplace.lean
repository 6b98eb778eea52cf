import SchemaCodegen.Generation.Run
import SchemaCodegen.Repository.File
import SchemaCodegen.Repository.Memory
import SchemaCodegen.Template.Engine

/-!
# Workplaces

Where runs take place: a machine, a keeper of metadata, a directory of templates, and what is
remembered from one run to the next.
-/

namespace SchemaCodegen

/-- Where metadata is kept. -/
inductive Keeper where
  | memory
  | file (path : Path)
deriving DecidableEq

structure Workplace where
  keeper : Keeper
  templateRoot : Path
  world : World
  /-- The metadata of a keeper in memory. -/
  memory : MetadataDocument
  templates : Template.Cache
  locks : Output.Locks

namespace Workplace

def answerMachine (call : Machine.Call) (w : Workplace) : Machine.Reply call × Workplace :=
  let (reply, world) := World.answer call w.world
  (reply, { w with world := world })

def answerRepository (call : Repository.Call) (w : Workplace) :
    Repository.Reply call × Workplace :=
  match w.keeper with
  | .memory =>
    let (reply, memory) := Repository.Memory.answer call w.memory
    (reply, { w with memory := memory })
  | .file path =>
    let (reply, world) :=
      Script.run (I := machine) World.answer (Repository.File.answer path call) w.world
    (reply, { w with world := world })

def answerProduction : (call : Production.Call) → Workplace → Production.Reply call × Workplace
  | .render template context, w =>
    let script := Template.Engine.render w.templateRoot template context.toJson
    let (reply, world, templates) := Template.runAlone script w.world w.templates
    (reply, { w with world := world, templates := templates })
  | .write path content, w =>
    let (reply, world, locks) := Output.runAlone (Output.write path content) w.world w.locks
    (reply, { w with world := world, locks := locks })

/-- Whoever does the bookkeeping is answered by the machine and the keeper. -/
def answerBookkeeping :
    (call : bookkeeping.Call) → Workplace → bookkeeping.Reply call × Workplace :=
  Script.answerEither answerMachine answerRepository

def answer : (call : generation.Call) → Workplace → generation.Reply call × Workplace :=
  Script.answerEither answerBookkeeping answerProduction

/-- Does bookkeeping at the workplace. -/
def book {α : Type} (books : Bookkeeping α) (w : Workplace) : Outcome α × Workplace :=
  Script.run answerBookkeeping books.run w

/-- Runs a generator at the workplace. -/
def run (g : Generator) (s : Snapshot) (w : Workplace) : Outcome RunReport × Workplace :=
  Script.run answer (g.run s).run w

end Workplace

end SchemaCodegen
