import Std.Data.ExtTreeMap
import SchemaCodegen.Script
import SchemaCodegen.Template.Filter

/-!
# Rendering sessions

What a rendering keeps while it runs: the scopes of variables, the text written so far, and the
blocks that templates define for each other. A rendering is a script that asks for the other
templates it names, so it does not say where templates come from.
-/

namespace SchemaCodegen.Template

/-- A rendering asks for templates by name. -/
def templates : Interface where
  Call := String
  Reply := fun _ => Except Fault Template

/-- Variables by name. -/
abbrev Bindings := Std.ExtTreeMap String Value

/-- A loop as statements describe it. -/
structure LoopBody where
  target : Target
  condition : Option Expression
  body : List Statement
  otherwise : List Statement

/-- A loop that is running. -/
structure RunningLoop where
  state : Value
  depth : Nat
  /-- What the loop repeats when it is called by name, if it may be. -/
  recursion : Option LoopBody
  /-- What was last asked about whether it changed. -/
  lastSeen : Option (List Value)

structure Frame where
  locals : Bindings
  loop : Option RunningLoop
  /-- The closure that follows the variables of this frame. -/
  closure : Option Nat
  /-- Variables that the frame sees but did not set. -/
  base : Bindings

def Frame.over (base : Bindings) : Frame :=
  ⟨∅, none, none, base⟩

def Frame.empty : Frame :=
  .over ∅

/-- The template that goes on when the running one is done, and the text written before it was
named. -/
structure Heir where
  template : Template
  output : String

structure Session where
  /-- The innermost frame first. -/
  frames : List Frame
  /-- The variables that procedures see, by the numbers of their closures. -/
  closures : List Bindings
  output : String
  escapes : Bool
  /-- What calls around the frames count towards the nesting limit. -/
  depth : Nat
  /-- What each block is in the templates, the innermost one first. -/
  blocks : List (String × List Block)
  /-- The block that is being written, and which of its layers. -/
  block : Option (String × Nat)
  heir : Option Heir
  /-- The templates that extend each other. -/
  lineage : List String

abbrev Rendering (α : Type) := StateT Session (ExceptT Fault (Script templates)) α

namespace Rendering

variable {α : Type}

def ofExcept (result : Except Fault α) : Rendering α :=
  StateT.lift (ExceptT.mk (pure result))

/-- Asks for a template. -/
def template (name : String) : Rendering Template :=
  StateT.lift (ExceptT.mk (Script.call (I := templates) name))

/-- The rendering with another fault in place of any that it meets. -/
def faultingWith (fault : Fault) (rendering : Rendering α) : Rendering α := fun s =>
  ExceptT.mk do
    match ← (rendering s).run with
    | .ok result => return .ok result
    | .error _ => return .error fault

/-! ## Frames -/

/-- How deep frames and calls may nest. -/
def nestingLimit : Nat := 500

def Session.nesting (s : Session) : Nat :=
  s.depth + s.frames.length

def checkNesting (s : Session) : Rendering Unit := do
  if nestingLimit < Session.nesting s then throw .invalidOperation

def pushFrame (frame : Frame) : Rendering Unit := do
  modify fun s => { s with frames := frame :: s.frames }
  checkNesting (← get)

def popFrame : Rendering Unit :=
  modify fun s => { s with frames := s.frames.drop 1 }

/-- Runs inside a frame of its own. -/
def inFrame (frame : Frame) (rendering : Rendering α) : Rendering α := do
  pushFrame frame
  let a ← rendering
  popFrame
  return a

/-- What a frame says about a name. -/
def frameValue? (name : String) (frame : Frame) : Option Value :=
  match frame.locals[name]? with
  | some value => some value
  | none =>
    match if name = "loop" then frame.loop else none with
    | some running => some running.state
    | none => frame.base[name]?.filter (!·.isUndefined)

/-- Functions that can be used without being defined. -/
def builtin? : String → Option Value
  | "range" => some (.builtin .range)
  | "dict" => some (.builtin .dict)
  | _ => none

/-- What a name stands for. -/
def valueOf? (s : Session) (name : String) : Option Value :=
  (s.frames.findSome? (frameValue? name)).or (builtin? name)

def lookup (name : String) : Rendering (Option Value) :=
  return valueOf? (← get) name

/-- Sets a variable of the innermost frame; a closure that follows the frame sees it too. -/
def store (name : String) (value : Value) : Rendering Unit :=
  modify fun s =>
    match s.frames with
    | [] => s
    | frame :: frames =>
      let closures := match frame.closure with
        | none => s.closures
        | some n => s.closures.modify n (·.insert name value)
      { s with
        frames := { frame with locals := frame.locals.insert name value } :: frames
        closures := closures }

/-- The variables that can be seen in some frames. -/
def visible (frames : List Frame) : Bindings :=
  frames.foldr (fun frame seen =>
    let withBase := frame.base.toList.foldl (fun m (k, v) => m.insert k v) seen
    let withLoop := match frame.loop with
      | none => withBase
      | some running => withBase.insert "loop" running.state
    frame.locals.toList.foldl (fun m (k, v) => m.insert k v) withLoop) ∅

/-- The closure of the innermost frame, which is created when a procedure first needs it. -/
def closure : Rendering Nat := do
  let s ← get
  match s.frames with
  | [] => return 0
  | frame :: frames =>
    match frame.closure with
    | some n => return n
    | none =>
      let n := s.closures.length
      set { s with
        frames := { frame with closure := some n } :: frames
        closures := s.closures ++ [visible s.frames] }
      return n

/-- Assigns to a target; a list of targets takes a list with as many items. No value has members
that can be set. -/
def assign : Target → Value → Rendering Unit
  | .name name, value => store name value
  | .member name path, _ => do
    let subject := (← lookup name).getD .undefined
    let _ ← ofExcept (path.dropLast.foldlM Value.member subject)
    throw .invalidOperation
  | .parts targets, value => do
    match value.parts? with
    | none => throw .cannotUnpack
    | some items =>
      if items.length = targets.length then assignParts targets items else throw .cannotUnpack
where
  assignParts : List Target → List Value → Rendering Unit
    | target :: targets, value :: values => do
      assign target value
      assignParts targets values
    | _, _ => return ()

/-- Forgets the variables of the innermost frame, as a loop does before each item. -/
def clearLocals : Rendering Unit :=
  modify fun s =>
    match s.frames with
    | [] => s
    | frame :: frames => { s with frames := { frame with locals := ∅, closure := none } :: frames }

/-- The innermost running loop. -/
def currentLoop : Rendering (Option RunningLoop) :=
  return (← get).frames.findSome? (·.loop)

/-- Changes the innermost running loop. -/
def modifyLoop (f : RunningLoop → RunningLoop) : Rendering Unit :=
  modify fun s =>
    let before := s.frames.takeWhile (·.loop.isNone)
    let changed := match s.frames.drop before.length with
      | [] => []
      | frame :: frames => { frame with loop := frame.loop.map f } :: frames
    { s with frames := before ++ changed }

/-! ## Output -/

def write (text : String) : Rendering Unit :=
  modify fun s => { s with output := s.output ++ text }

def emit (value : Value) : Rendering Unit :=
  modify fun s =>
    { s with output := s.output ++ if s.escapes then value.escaped else value.display }

/-- Runs with nothing written before, and gives back what was written. -/
def capture (rendering : Rendering Unit) : Rendering String := do
  let before := (← get).output
  modify fun s => { s with output := "" }
  rendering
  let text := (← get).output
  modify fun s => { s with output := before }
  return text

/-- What was written, as a value that is safe where text is escaped. -/
def captureValue (rendering : Rendering Unit) : Rendering Value := do
  let text ← capture rendering
  return .text text (← get).escapes

/-- Runs in a session of its own, of which only the closures remain. -/
def isolated (change : Session → Session) (rendering : Rendering α) : Rendering α := do
  let outer ← get
  set (change outer)
  let a ← rendering
  modify fun s => { outer with closures := s.closures }
  return a

end Rendering

/-- The endings of template files, without which a name tells what the text is. -/
def templateEndings : List String :=
  [".j2", ".jinja2", ".jinja"]

/-- Whether a template's text is escaped, which its name tells: the last part behind a point, an
ending of template files left out. -/
def escapesByName (name : String) : Bool :=
  let cs := name.toList
  let stem := match templateEndings.find? fun e => Text.startsWith e.toList.reverse cs.reverse with
    | some ending => cs.take (cs.length - ending.length)
    | none => cs
  let ending := String.ofList (stem.reverse.takeWhile (· != '.')).reverse
  ending == "html" || ending == "htm" || ending == "xml"

end SchemaCodegen.Template
