import SchemaCodegen.Machine
import SchemaCodegen.Template.Cache
import SchemaCodegen.Template.Evaluator
import SchemaCodegen.Template.Name
import SchemaCodegen.Template.Parser

/-!
# The template engine

Renders the templates below a root directory. A template is read from the disk when it is first
asked for and kept in a cache, which several engines may share, until the cache is cleared. What
can go wrong with a template is one kind of failure that names the template and carries the cause;
only unusable names and data are told apart.
-/

namespace SchemaCodegen.Template

/-- An engine asks the machine and a template cache. -/
def engine : Interface :=
  machine.sum caching

namespace Engine

variable {α : Type}

def ofMachine (script : Script machine α) : Script engine α :=
  script.left

def ask (call : Cache.Call) : Script engine (Cache.Reply call) :=
  (Script.call (I := caching) call).right

/-- Reads the template of a name from its file. -/
def read (root : Path) (name : String) : Script machine (Except Cause Template) := do
  let file := Name.file root name
  match ← Job.tryReadText file with
  | .error .notFound => return .error (.notFound file)
  | .error fault => return .error (.unreadable file fault)
  | .ok source =>
    match compile name source with
    | .error _ => return .error .malformed
    | .ok template => return .ok template

/-- Reads a template that another one names. -/
def readNamed (root : Path) (name : String) : Script machine (Except Fault Template) := do
  if !Name.isLoadable name then return .error .templateNotFound
  match ← Job.tryReadText (Name.loadedFile root name) with
  | .error .notFound => return .error .templateNotFound
  | .error _ => return .error .invalidOperation
  | .ok source => return compile name source

/-- The cell and the template of a normalized name. A reading that fails leaves no slot. -/
def obtain (root : Path) (name : String) : Script engine (Outcome (Nat × Template)) := do
  let cell ← ask (.slot name)
  match ← ask (.start cell) with
  | some template => return .ok (cell, template)
  | none =>
    match ← ofMachine (read root name) with
    | .ok template => do
      ask (.fill cell template)
      return .ok (cell, template)
    | .error cause => do
      ask (.abandon cell)
      ask (.discard name cell)
      return .error (.render name cause)

/-- A template that the template of a cell names: from the cell, or from the disk into the cell. -/
def obtainNamed (root : Path) (cell : Nat) (name : String) :
    Script engine (Except Fault Template) := do
  match ← ask (.find cell name) with
  | some template => return .ok template
  | none =>
    match ← ofMachine (readNamed root name) with
    | .ok template => do
      ask (.add cell template)
      return .ok template
    | .error fault => return .error fault

/-- The failure to hand over data that is null. -/
def missingData (name : String) : Failure :=
  .invalidArgument ("Render data for template '" ++ name ++ "' must not be null")

/-- Data for a template, which has to be there. -/
def isNull : Json → Bool
  | .null => true
  | _ => false

/-- Renders a template with data. -/
def render (root : Path) (name : String) (data : Json) : Script engine (Outcome String) := do
  match Name.normalize name with
  | .error failure => return .error failure
  | .ok name =>
    if isNull data then return .error (missingData name)
    match ← obtain root name with
    | .error failure => return .error failure
    | .ok (cell, template) =>
      match ← Script.interpret (I := templates) (obtainNamed root cell)
          (Template.render template data) with
      | .ok text => return .ok text
      | .error fault => return .error (.render name (.evaluation fault))

/-- Renders a template with data that are made JSON first; `none` stands for data of which that is
not possible. -/
def renderValue (root : Path) (name : String) (data? : Option Json) :
    Script engine (Outcome String) :=
  match data? with
  | some data => render root name data
  | none =>
    match Name.normalize name with
    | .error failure => return .error failure
    | .ok name => return .error (.render name .unserializable)

/-- Reads a template ahead of its first use. -/
def preload (root : Path) (name : String) : Script engine (Outcome Unit) := do
  match Name.normalize name with
  | .error failure => return .error failure
  | .ok name => return (← obtain root name).map fun _ => ()

/-! ## Preloading -/

/-- How deep directories can nest before their paths are too long to be opened. -/
def depthLimit : Nat := 2048

/-- The name of a template file by its file name. The stem of `..j2` is only cut off up to its last
point, which leaves the name of the parent. -/
def templateName? (file : String) : Option String :=
  let (stem, extension) := Path.splitExtension file
  match extension with
  | some e =>
    if Text.sameIgnoringAsciiCase e.toList Name.extension.toList then
      some (if stem = "." then ".." else stem)
    else none
  | none => none

/-- The names of the templates in a directory and below it; `parents` leads to the directory. -/
def namesBelow : Nat → List String → Path → Job (List String)
  | 0, _, _ => throw (.io .nameTooLong)
  | depth + 1, parents, directory => do
    let entries ← Job.list directory
    let names ← entries.mapM fun (name, isDirectory) =>
      if isDirectory then namesBelow depth (parents ++ [name]) (directory.join name)
      else
        match templateName? name with
        | some stem => return [String.intercalate "/" (parents ++ [stem])]
        | none => return []
    return names.flatten

/-- Preloads templates in turn as far as the first failure. -/
def preloadEach (root : Path) : List String → Script engine (Outcome Unit)
  | [] => return .ok ()
  | name :: names => do
    match ← preload root name with
    | .error failure => return .error failure
    | .ok () => preloadEach root names

/-- Preloads every template below the root by ascending name, and tells how many there are. -/
def preloadAll (root : Path) : Script engine (Outcome Nat) := do
  match ← ofMachine (namesBelow depthLimit [] root).run with
  | .error failure => return .error failure
  | .ok names =>
    let names := names.mergeSort fun a b => !(b < a)
    return (← preloadEach root names).map fun _ => names.length

/-- Drops all templates. -/
def clear : Script engine Unit :=
  ask .clear

/-- How many templates are kept. -/
def count : Script engine Nat :=
  ask .count

end Engine

/-- Runs an engine's script alone on a machine and a cache. -/
def runAlone {α : Type} (script : Script engine α) (world : World) (cache : Cache) :
    α × World × Cache :=
  Script.run (I := machine.sum caching) (Script.answerSum World.answer Cache.answer) script
    (world, cache)

end SchemaCodegen.Template
