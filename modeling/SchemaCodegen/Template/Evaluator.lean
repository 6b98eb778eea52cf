import SchemaCodegen.Template.Session

/-!
# Evaluating templates

Expressions and statements are evaluated by recursion on the tree. What is not part of the tree,
such as the body of a procedure or another template, is handed to `call` as a task, so each task
that starts another one is one level of nesting, and only that nesting needs a bound.
-/

namespace SchemaCodegen.Template

/-- What is carried out apart from the tree that asks for it. -/
inductive Task where
  | statements (body : List Statement)
  | template (template : Template)
  /-- A loop over the items of a value. -/
  | loop (body : LoopBody) (source : Value)

namespace Rendering

/-! ## Calls -/

/-- Items of a list, each as an argument. -/
def spread (value : Value) : Rendering (List Value) :=
  ofExcept value.iterate

/-- Entries of a map as named arguments. -/
def spreadNamed (value : Value) : Rendering (List (String × Value)) := do
  match value.entries? with
  | some entries => return entries.filterMap fun (k, v) => k.text?.map (·, v)
  | none => throw .invalidOperation

/-- The arguments with one more. -/
def addArgument (arguments : Arguments) (passing : Passing) (value : Value) :
    Rendering Arguments := do
  match passing with
  | .positional => return { arguments with positional := arguments.positional ++ [value] }
  | .spread => return { arguments with positional := arguments.positional ++ (← spread value) }
  | .named name => return { arguments with named := arguments.named ++ [(name, value)] }
  | .spreadNamed => return { arguments with named := arguments.named ++ (← spreadNamed value) }

/-- The most numbers that a range may have. -/
def rangeLimit : Nat := 100000

/-- How many numbers there are from a start to before an end. -/
def rangeCount (first last step : Int) : Nat :=
  if 0 < step then ((last - first + step - 1) / step).toNat
  else ((first - last - step - 1) / -step).toNat

/-- The numbers from a start to before an end, upwards or downwards. -/
def range (arguments : Arguments) : Except Fault Value := do
  let values ← arguments.upTo 3
  let some bound := values[0]? | throw .missingArgument
  let bound ← Filter.properInteger bound
  let second ← (Filter.present? values 1).mapM Filter.properInteger
  let step := (← (Filter.present? values 2).mapM Filter.properInteger).getD 1
  if step = 0 then throw .invalidOperation
  let (first, last) := match second with
    | none => (0, bound)
    | some last => (bound, last)
  let count := rangeCount first last step
  if rangeLimit < count then throw .invalidOperation
  return .series ((List.range count).map fun (i : Nat) => .integer (first + i * step))

/-- A map with named entries added. -/
def dict (arguments : Arguments) : Except Fault Value := do
  let entries ← match arguments.positional with
    | [] => pure []
    | [value] =>
      match value.entries? with
      | some entries => pure entries
      | none => if value.isPresent then throw .invalidOperation else pure []
    | _ => throw .tooManyArguments
  return Value.mapOf (entries ++ arguments.named.map fun (k, v) => (.ofText k, v))

/-- The values of parameters, undefined where there is no argument. Other names are refused,
except for `others`. -/
def parameterValues (parameters : List Parameter) (others : List String) (arguments : Arguments) :
    Except Fault (List (Parameter × Value)) := do
  if parameters.length < arguments.positional.length then throw .tooManyArguments
  let names := parameters.map (·.name) ++ others
  unless arguments.named.all fun (name, _) => names.contains name do throw .tooManyArguments
  parameters.zipIdx.mapM fun (parameter, place) =>
    match arguments.positional[place]?, arguments.named.reverse.lookup parameter.name with
    | some _, some _ => throw .tooManyArguments
    | some value, none => return (parameter, value)
    | none, some value => return (parameter, value)
    | none, none => return (parameter, .undefined)

/-- What an inclusion and a procedure count towards the nesting limit. -/
def inclusionCost : Nat := 10

def procedureCost : Nat := 4

section

variable (call : Task → Rendering Unit)

/-- Binds parameters, the last one first. A missing one has the value of its fallback. -/
def bindParameters : List (Parameter × Value) → Rendering Unit
  | [] => return ()
  | (parameter, value) :: before => do
    match value, parameter.fallback with
    | .undefined, some fallback =>
      call (.statements [.assign (.name parameter.name) fallback])
    | value, _ => store parameter.name value
    bindParameters before

/-- Calls a procedure: its body sees the arguments, its closure, and the data. -/
def callProcedure (procedure : Procedure) (arguments : Arguments) : Rendering Value := do
  let others := if procedure.usesCaller then ["caller"] else []
  let values ← ofExcept (parameterValues procedure.parameters others arguments)
  let change (s : Session) : Session :=
    let data := (s.frames.getLast?.map (·.base)).getD ∅
    let seen := (s.closures[procedure.closure]?).getD ∅
    { s with
      frames := [.over seen, .over data]
      depth := Session.nesting s + procedureCost
      output := ""
      blocks := []
      block := none
      heir := none
      lineage := [] }
  isolated change do
    checkNesting (← get)
    others.forM fun name => store name ((arguments.named.reverse.lookup name).getD .undefined)
    bindParameters call values.reverse
    captureValue (call (.statements procedure.body))

def callValue (callee : Value) (arguments : Arguments) : Rendering Value := do
  match callee with
  | .procedure p => callProcedure call p arguments
  | .builtin .range => ofExcept (range arguments)
  | .builtin .dict => ofExcept (dict arguments)
  | .loop _ _ _ _ _ => throw .unknownFunction
  | _ => throw .invalidOperation

/-- Writes a block, unless the template only defines it for the one that it extends. -/
def writeBlock (name : String) : Rendering Unit := do
  let s ← get
  if s.heir.isSome then return
  let some top := ((s.blocks.lookup name).getD []).head? | throw .unknownBlock
  if top.isRequired then throw .invalidOperation
  set { s with block := some (name, 0) }
  inFrame .empty (call (.statements top.body))
  modify fun t => { t with block := s.block, heir := none }

/-- The block that the running one takes the place of. -/
def callSuper : Rendering Value := do
  let some (name, level) := (← get).block | throw .invalidOperation
  let layers := ((← get).blocks.lookup name).getD []
  let some layer := layers[level + 1]? | throw .invalidOperation
  modify fun s => { s with block := some (name, level + 1) }
  let value ← faultingWith .badBlock
    (inFrame .empty (captureValue (call (.statements layer.body))))
  modify fun s => { s with block := some (name, level) }
  return value

/-- Repeats the innermost running loop with other items. -/
def callLoop (arguments : Arguments) : Rendering Value := do
  match arguments.positional, arguments.named with
  | [items], [] =>
    match ← currentLoop with
    | none => throw .unknownFunction
    | some running =>
      match running.recursion with
      | none => throw .invalidOperation
      | some body => captureValue (call (.loop body items))
  | _, _ => throw .invalidOperation

/-- A call of a name. -/
def callName (name : String) (arguments : Arguments) : Rendering Value := do
  if name = "super" then
    if arguments.positional.isEmpty && arguments.named.isEmpty then callSuper call
    else throw .invalidOperation
  else if name = "loop" then callLoop call arguments
  else
    match ← lookup name with
    | some callee => callValue call callee arguments
    | none => throw .unknownFunction

/-- A call of a part of a value. -/
def callMember (subject : Value) (name : String) (arguments : Arguments) : Rendering Value := do
  match subject, name with
  | .loop index _ _ _ _, "cycle" =>
    let values := arguments.positional
    return (values[index % values.length]?).getD .undefined
  | .loop _ _ _ _ _, "changed" => do
    let values := arguments.positional
    let same := ((← currentLoop).bind (·.lastSeen)).any fun seen => Value.equalItems seen values
    modifyLoop fun running => { running with lastSeen := some values }
    return .bool !same
  | subject, name =>
    match Value.valueUnder? (.ofText name) subject with
    | some callee => callValue call callee arguments
    | none => throw .unknownMethod

/-! ## Expressions

A list that is made where it is tested is the same as no other, whatever is in it. -/

mutual

def eval : Expression → Rendering Value
  | .literal value => return .ofLiteral value
  | .variable name => return (← lookup name).getD .undefined
  | .list items => return .list (← evalEach items)
  | .map entries => return Value.mapOf (← evalEntries entries)
  | .member subject name => do ofExcept ((← eval subject).member name)
  | .item subject key => do
    let subject ← eval subject
    ofExcept (subject.part (← eval key))
  | .slice subject start stop step => do
    let subject ← eval subject
    let start ← eval start
    let stop ← eval stop
    ofExcept (subject.slice start stop (← eval step))
  | .unary .not operand => return .bool !(← eval operand).isTrue
  | .unary .negate operand => do ofExcept (← eval operand).negate
  | .binary .or left right => do
    let left ← eval left
    if left.isTrue then return left else eval right
  | .binary .and left right => do
    let left ← eval left
    if left.isTrue then eval right else return left
  | .binary operator left right => do
    let left ← eval left
    ofExcept (Value.binary operator left (← eval right))
  | .compare first links => do
    let first ← eval first
    return .bool (← evalLinks first links)
  | .choose test yes no => do
    if (← eval test).isTrue then eval yes else eval no
  | .filter name subject arguments => do
    let subject ← eval subject
    let arguments ← evalArguments ⟨[], []⟩ arguments
    ofExcept (Filter.apply name (← get).escapes subject arguments)
  | .test name subject arguments => do
    let value ← eval subject
    let passed ← ofExcept (Check.apply name value (← evalArguments ⟨[], []⟩ arguments))
    let isMade := value.isObject && !(subject :: arguments.map (·.2)).all Expression.isShared
    return .bool (passed && !(name == "sameas" && isMade))
  | .call (.variable name) arguments => do
    callName call name (← evalArguments ⟨[], []⟩ arguments)
  | .call (.member (.variable "self") name) _ => captureValue (writeBlock call name)
  | .call (.member subject name) arguments => do
    let subject ← eval subject
    callMember call subject name (← evalArguments ⟨[], []⟩ arguments)
  | .call callee arguments => do
    let callee ← eval callee
    callValue call callee (← evalArguments ⟨[], []⟩ arguments)

/-- Whether all comparisons of a chain hold; behind one that does not, no operand is evaluated. -/
def evalLinks (left : Value) : List (Comparison × Expression) → Rendering Bool
  | [] => return true
  | (comparison, e) :: links => do
    let right ← eval e
    if ← ofExcept (Value.holds comparison left right) then evalLinks right links
    else return false

def evalEach : List Expression → Rendering (List Value)
  | [] => return []
  | e :: es => do
    let value ← eval e
    return value :: (← evalEach es)

def evalEntries : List (Expression × Expression) → Rendering (List (Value × Value))
  | [] => return []
  | (key, value) :: entries => do
    let key ← eval key
    let value ← eval value
    return (key, value) :: (← evalEntries entries)

def evalArguments (before : Arguments) : List (Passing × Expression) → Rendering Arguments
  | [] => return before
  | (passing, e) :: arguments => do
    evalArguments (← addArgument before passing (← eval e)) arguments

end

/-- A value behind a chain of filters. -/
def evalFilters (value : Value) (filters : List Filtering) : Rendering Value :=
  filters.foldlM (fun value (name, arguments) => do
    let arguments ← evalArguments call ⟨[], []⟩ arguments
    ofExcept (Filter.apply name (← get).escapes value arguments)) value

/-! ## Other templates -/

/-- The blocks of a template, to which the templates that it extends add theirs. -/
def ownBlocks (template : Template) : List (String × List Block) :=
  template.blocks.map fun (name, block) => (name, [block])

/-- Writes another template in place; what goes wrong in it is a bad inclusion. -/
def includeTemplate (template : Template) : Rendering Unit := do
  let outer ← get
  let closure := outer.frames.head?.bind (·.closure)
  let withClosure (closure : Option Nat) (s : Session) : Session :=
    match s.frames with
    | [] => s
    | frame :: frames => { s with frames := { frame with closure := closure } :: frames }
  checkNesting { outer with depth := outer.depth + inclusionCost }
  set (withClosure none { outer with
    escapes := escapesByName template.name
    depth := outer.depth + inclusionCost
    blocks := ownBlocks template
    block := none
    heir := none })
  faultingWith .badInclude (call (.template template))
  modify fun s => withClosure closure { s with
    escapes := outer.escapes
    depth := outer.depth
    blocks := outer.blocks
    block := outer.block
    heir := outer.heir
    lineage := outer.lineage }

/-- The name of a template, which has to be text. -/
def templateName (value : Value) : Rendering String := do
  match value with
  | .text name _ => return name
  | _ => throw .invalidOperation

/-- The first of several templates that exists. -/
def firstTemplate : List Value → Rendering (Option Template)
  | [] => return none
  | choice :: choices => do
    let name ← templateName choice
    let found ← fun s => ExceptT.mk do
      match ← (template name s).run with
      | .ok (found, s) => return .ok (some found, s)
      | .error .templateNotFound => return .ok (none, s)
      | .error fault => return .error fault
    match found with
    | some found => return some found
    | none => firstTemplate choices

/-- Writes the first template that exists. If none does, that is a fault unless it is ignored;
an empty list of names names nothing that could be missing. -/
def embed (choice : Value) (ignoresMissing : Bool) : Rendering Unit := do
  let choices := choice.parts?.getD [choice]
  match ← firstTemplate choices with
  | some found => includeTemplate call found
  | none => unless ignoresMissing || choices.isEmpty do throw .templateNotFound

/-- Goes on with another template when the running one is done. -/
def extend (value : Value) : Rendering Unit := do
  if (← get).heir.isSome then throw .invalidOperation
  let name ← templateName value
  if (← get).lineage.contains name then throw .invalidOperation
  let parent ← template name
  modify fun s =>
    let inherited := parent.blocks.foldl (fun blocks (name, block) =>
      if blocks.any (·.1 == name) then
        blocks.map fun (n, layers) => if n = name then (n, layers ++ [block]) else (n, layers)
      else blocks ++ [(name, [block])]) s.blocks
    { s with
      blocks := inherited
      lineage := parent.name :: s.lineage
      heir := some ⟨parent, s.output⟩ }

/-- Runs another template for the variables that it sets; `rest` sees them and what was written. -/
def withImported {α : Type} (choice : Value) (rest : String → Rendering α) : Rendering α := do
  pushFrame .empty
  let text ← capture (embed call choice false)
  let a ← rest text
  popFrame
  return a

/-- The variables that the innermost frame has set, and the text of their template. -/
def exports (text : String) : Rendering Value := do
  let locals := ((← get).frames.head?.map (·.locals)).getD ∅
  return .module (locals.toList.map fun (k, v) => (.ofText k, v)) text

/-! ## Statements -/

/-- Whether text is escaped from here on: by a mode's name, or if the value equals true. -/
def escapingMode : Value → Rendering Bool
  | .text "html" _ => return true
  | .text "none" _ => return false
  | .text _ _ => throw .invalidOperation
  | value => return Value.equal value (.bool true)

/-- The frame of a loop before its first item. -/
def loopFrame (depth : Nat) (recursion : Option LoopBody) : Frame :=
  { Frame.empty with
    loop := some ⟨.loop 0 none depth .undefined .undefined, depth, recursion, none⟩ }

/-- Runs a loop's body for each item; what the body sets is forgotten before the next item. -/
def eachItem (target : Target) (body : Rendering Unit) (depth : Nat) (isCounted : Bool)
    (items : List Value) : Rendering Unit :=
  let all := items.toArray
  let length := if isCounted then some all.size else none
  items.zipIdx.forM fun (item, place) => do
    let previous := if place = 0 then .undefined else (all[place - 1]?).getD .undefined
    let following := (all[place + 1]?).getD .undefined
    modifyLoop fun running =>
      { running with state := .loop place length depth previous following }
    clearLocals
    assign target item
    body

/-- The items that pass a condition, which sees the target but not the loop. -/
def passing (target : Target) (condition : Rendering Value) (items : List Value) :
    Rendering (List Value) :=
  inFrame .empty do
    items.filterM fun item => do
      assign target item
      return (← condition).isTrue

/-- A loop over the items of a value. -/
def runLoop (target : Target) (condition : Option (Rendering Value)) (body otherwise :
    Rendering Unit) (recursion : Option LoopBody) (source : Value) : Rendering Unit := do
  let items ← ofExcept source.iterate
  let items ← match condition with
    | none => pure items
    | some condition => passing target condition items
  let isCounted := condition.isSome || source.isCounted
  let depth := match ← currentLoop with
    | some running => if running.recursion.isSome then running.depth + 1 else 0
    | none => 0
  inFrame (loopFrame depth recursion) (eachItem target body depth isCounted items)
  if items.isEmpty then otherwise

mutual

def exec : Statement → Rendering Unit
  | .text value => write value
  | .emit value => do emit (← eval call value)
  | .evaluate value => do
    let _ ← eval call value
  | .branch test yes no => do
    if (← eval call test).isTrue then execAll yes else execAll no
  | .loop target source condition isRecursive body otherwise => do
    let source ← eval call source
    let recursion := if isRecursive then some ⟨target, condition, body, otherwise⟩ else none
    runLoop target (condition.map (eval call)) (execAll body) (execAll otherwise) recursion source
  | .scope bindings body => do
    pushFrame .empty
    bindings.forM fun (target, value) => do assign target (← eval call value)
    execAll body
    popFrame
  | .assign target value => do assign target (← eval call value)
  | .assignText target filters body => do
    let value ← captureValue (execAll body)
    assign target (← evalFilters call value filters)
  | .escaping enabled body => do
    let outer := (← get).escapes
    let escapes ← escapingMode (← eval call enabled)
    modify fun s => { s with escapes := escapes }
    execAll body
    modify fun s => { s with escapes := outer }
  | .filtered filters body => do
    let value ← captureValue (execAll body)
    emit (← evalFilters call value filters)
  | .block name => writeBlock call name
  | .extend template => do extend (← eval call template)
  | .embed template ignoresMissing => do embed call (← eval call template) ignoresMissing
  | .importAs template target => do
    let module ← withImported call (← eval call template) exports
    assign target module
  | .importNames template names => do
    let values ← withImported call (← eval call template)
      fun _ => names.mapM fun (_, source) => return (← lookup source).getD .undefined
    (names.zip values).reverse.forM fun ((target, _), value) => assign target value
  | .procedure name parameters body => do
    let closure ← closure
    store name (.procedure ⟨name, parameters, body, closure⟩)

def execAll : List Statement → Rendering Unit
  | [] => return ()
  | statement :: rest => do
    exec statement
    execAll rest

end

end

/-- Carries out tasks that nest no deeper than a bound. -/
def perform : Nat → Task → Rendering Unit
  | 0, _ => throw .invalidOperation
  | bound + 1, .statements body => execAll (perform bound) body
  | bound + 1, .loop body source =>
    runLoop body.target (body.condition.map (eval (perform bound)))
      (execAll (perform bound) body.body) (execAll (perform bound) body.otherwise) (some body)
      source
  | bound + 1, .template template => do
    execAll (perform bound) template.body
    match (← get).heir with
    | none => return ()
    | some heir => do
      modify fun s => { s with output := heir.output, heir := none }
      perform bound (.template heir.template)

/-- More levels of nesting than the nesting limit lets a template reach. -/
def performLimit : Nat := 20 * nestingLimit

end Rendering

/-- Data as variables: the members of an object. -/
def dataBindings : Json → Bindings
  | .object members => members.foldl (fun m (k, v) => m.insert k (Value.ofJson v)) ∅
  | _ => ∅

/-- Renders a template with data. -/
def render (template : Template) (data : Json) : Script templates (Except Fault String) := do
  let session : Session :=
    { frames := [.over (dataBindings data)]
      closures := []
      output := ""
      escapes := escapesByName template.name
      depth := 0
      blocks := Rendering.ownBlocks template
      block := none
      heir := none
      lineage := [template.name] }
  let result ← (Rendering.perform Rendering.performLimit (.template template) session).run
  return result.map (·.2.output)

end SchemaCodegen.Template
