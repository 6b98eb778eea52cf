import SchemaCodegen.Template.Token
import SchemaCodegen.Template.Tree

/-!
# Reading templates

Trees from tokens. Expressions bind, from loosest to tightest: the choice by `if`, `or`, `and`,
`not`, comparisons, sums, joined text, products, powers, signs. Every parser below an expression
or a statement gets the parser for nested ones as an argument, so the only recursion is by
nesting depth, which is limited.
-/

namespace SchemaCodegen.Template

/-- What reading a template keeps track of. -/
structure Reading where
  tokens : List Token
  blocks : List (String × Block)
  /-- Whether a procedure is being read, which cannot hold blocks. -/
  inProcedure : Bool

abbrev Parser (α : Type) := StateT Reading (Except Fault) α

namespace Parser

variable {α : Type}

def fail : Parser α :=
  throw .invalidTemplate

/-- The next token without taking it. -/
def peek : Parser (Option Token) := do
  match (← get).tokens with
  | [] => return none
  | .broken fault :: _ => throw fault
  | token :: _ => return some token

def next : Parser (Option Token) := do
  let token ← peek
  modify fun r => { r with tokens := r.tokens.drop 1 }
  return token

/-- How many tokens are left, which bounds every loop. -/
def remaining : Parser Nat :=
  return (← get).tokens.length

def peekIs (token : Token) : Parser Bool :=
  return (← peek) == some token

/-- Takes the token if it is the next one. -/
def skip (token : Token) : Parser Bool := do
  if ← peekIs token then
    let _ ← next
    return true
  else return false

def skipMark (mark : Mark) : Parser Bool :=
  skip (.mark mark)

def skipName (name : String) : Parser Bool :=
  skip (.name name)

def expect (token : Token) : Parser Unit := do
  unless ← skip token do fail

def expectMark (mark : Mark) : Parser Unit :=
  expect (.mark mark)

def expectName (name : String) : Parser Unit :=
  expect (.name name)

/-- Any name. -/
def name : Parser String := do
  match ← next with
  | some (.name s) => return s
  | _ => fail

/-! ## Expressions -/

/-- Items up to a closing mark, separated by commas; a comma may stand before the closing mark. -/
def itemsFrom (item : Parser α) (close : Mark) : Nat → List α → Parser (List α)
  | 0, _ => fail
  | fuel + 1, items => do
    if ← skipMark close then return items.reverse
    unless items.isEmpty do expectMark .comma
    if !items.isEmpty && (← skipMark close) then return items.reverse
    itemsFrom item close fuel ((← item) :: items)

def items (item : Parser α) (close : Mark) : Parser (List α) := do
  itemsFrom item close ((← remaining) + 1) []

/-- Operands joined by operators that all bind to the left. -/
def leftAssocFrom (operator? : Token → Option BinaryOperator) (operand : Parser Expression) :
    Nat → Expression → Parser Expression
  | 0, left => return left
  | fuel + 1, left => do
    match (← peek).bind operator? with
    | none => return left
    | some operator => do
      let _ ← next
      leftAssocFrom operator? operand fuel (.binary operator left (← operand))

def leftAssoc (operator? : Token → Option BinaryOperator) (operand : Parser Expression) :
    Parser Expression := do
  let left ← operand
  leftAssocFrom operator? operand (← remaining) left

def orOperator? : Token → Option BinaryOperator
  | .name "or" => some .or
  | _ => none

def andOperator? : Token → Option BinaryOperator
  | .name "and" => some .and
  | _ => none

def comparison? : Token → Option Comparison
  | .mark .equal => some .equal
  | .mark .unequal => some .unequal
  | .mark .less => some .less
  | .mark .lessEqual => some .lessEqual
  | .mark .greater => some .greater
  | .mark .greaterEqual => some .greaterEqual
  | .name "in" => some .within
  | _ => none

def sumOperator? : Token → Option BinaryOperator
  | .mark .plus => some .add
  | .mark .minus => some .subtract
  | _ => none

def concatOperator? : Token → Option BinaryOperator
  | .mark .tilde => some .concat
  | _ => none

def productOperator? : Token → Option BinaryOperator
  | .mark .times => some .multiply
  | .mark .slash => some .divide
  | .mark .doubleSlash => some .floorDivide
  | .mark .percent => some .modulo
  | _ => none

def powerOperator? : Token → Option BinaryOperator
  | .mark .doubleTimes => some .power
  | _ => none

/-- How often a token stands here; all of them are taken. -/
def countSkipped (token : Token) : Nat → Parser Nat
  | 0 => return 0
  | fuel + 1 => do
    if ← skip token then return (← countSkipped token fuel) + 1 else return 0

/-- Signs in front of an operand, the innermost applied first. -/
def signed (operator : UnaryOperator) (token : Token) (operand : Parser Expression) :
    Parser Expression := do
  let count ← countSkipped token (← remaining)
  let value ← operand
  return count.repeat (Expression.unary operator) value

/-- The parsers that are one level further in. -/
structure Nested where
  /-- An expression inside of brackets or a tag. -/
  expression : Parser Expression
  /-- An operand with neither signs nor suffixes. -/
  operand : Parser Expression

section

variable (nested : Nested)

/-- An entry of a map literal. -/
def entry : Parser (Expression × Expression) := do
  let key ← nested.expression
  expectMark .colon
  return (key, ← nested.expression)

/-- What follows an opening parenthesis: an expression, or a list if there is a comma. -/
def parenthesized : Parser Expression := do
  if ← skipMark .closeParen then return .list []
  let first ← nested.expression
  if ← peekIs (.mark .comma) then
    return .list (← itemsFrom nested.expression .closeParen ((← remaining) + 1) [first])
  expectMark .closeParen
  return first

/-- A quoted text joined with those that directly follow it. -/
def quotedFrom : Nat → String → Parser String
  | 0, s => return s
  | fuel + 1, s => do
    match ← peek with
    | some (.quoted t) => do
      let _ ← next
      quotedFrom fuel (s ++ t)
    | _ => return s

def primary : Parser Expression := do
  match ← next with
  | some (.name "true") | some (.name "True") => return .literal (.bool true)
  | some (.name "false") | some (.name "False") => return .literal (.bool false)
  | some (.name "none") | some (.name "None") => return .literal .none
  | some (.name s) => return .variable s
  | some (.quoted s) => return .literal (.text (← quotedFrom (← remaining) s))
  | some (.integer n) => return .literal (.integer n)
  | some (.decimal significand exponent) => return .literal (.decimal significand exponent)
  | some (.mark .openParen) => parenthesized nested
  | some (.mark .openBracket) => return .list (← items nested.expression .closeBracket)
  | some (.mark .openBrace) => return .map (← items (entry nested) .closeBrace)
  | _ => fail

/-- What stands between square brackets: a key, or the three parts of a slice. -/
def subscript (subject : Expression) : Parser Expression := do
  let start ←
    if ← peekIs (.mark .colon) then pure (Expression.literal .none) else nested.expression
  if ← skipMark .colon then
    let stop ←
      if (← peekIs (.mark .closeBracket)) || (← peekIs (.mark .colon)) then
        pure (Expression.literal .none)
      else nested.expression
    let step ←
      if ← skipMark .colon then
        if ← peekIs (.mark .closeBracket) then pure (Expression.literal .none)
        else nested.expression
      else pure (Expression.literal .none)
    expectMark .closeBracket
    return .slice subject start stop step
  expectMark .closeBracket
  return .item subject start

/-- The joined levels above signs, given the level of signs. -/
def arithmetic (sign : Parser Expression) : Parser Expression :=
  leftAssoc sumOperator? (leftAssoc concatOperator? (leftAssoc productOperator?
    (leftAssoc powerOperator? sign)))

/-- Comparisons with further operands, `not in` among them. -/
def linksFrom (operand : Parser Expression) : Nat → Parser (List (Comparison × Expression))
  | 0 => return []
  | fuel + 1 => do
    let comparison ←
      if ← skipName "not" then
        expectName "in"
        pure (some Comparison.outside)
      else
        match (← peek).bind comparison? with
        | none => pure none
        | some comparison => do
          let _ ← next
          pure (some comparison)
    match comparison with
    | none => return []
    | some comparison => do
      let right ← operand
      return (comparison, right) :: (← linksFrom operand fuel)

/-- An operand, or a chain of comparisons. -/
def compared (operand : Parser Expression) : Parser Expression := do
  let first ← operand
  match ← linksFrom operand (← remaining) with
  | [] => return first
  | links => return .compare first links

/-- The joined levels below the choice by `if`, given the level of signs. -/
def disjunctionOf (sign : Parser Expression) : Parser Expression :=
  leftAssoc orOperator? (leftAssoc andOperator?
    (signed .not (.name "not") (compared (arithmetic sign))))

/-- One argument; behind a named argument no plain one may follow. -/
def argument (afterNamed : Bool) : Parser (Passing × Expression) := do
  if ← skipMark .doubleTimes then return (.spreadNamed, ← nested.expression)
  if ← skipMark .times then return (.spread, ← nested.expression)
  match ← nested.expression with
  | .variable s =>
    if ← skipMark .assign then return (.named s, ← nested.expression)
    if afterNamed then fail
    return (.positional, .variable s)
  | e =>
    if afterNamed then fail
    return (.positional, e)

def isNamed : Passing → Bool
  | .named _ | .spreadNamed => true
  | .positional | .spread => false

def argumentsFrom :
    Nat → List (Passing × Expression) → Parser (List (Passing × Expression))
  | 0, _ => fail
  | fuel + 1, arguments => do
    if ← skipMark .closeParen then return arguments.reverse
    unless arguments.isEmpty do expectMark .comma
    if !arguments.isEmpty && (← skipMark .closeParen) then return arguments.reverse
    let next ← argument nested (arguments.any fun a => isNamed a.1)
    argumentsFrom fuel (next :: arguments)

/-- Arguments in parentheses. -/
def arguments : Parser (List (Passing × Expression)) := do
  expectMark .openParen
  argumentsFrom nested ((← remaining) + 1) []

/-- Arguments if there are any. -/
def optionalArguments : Parser (List (Passing × Expression)) := do
  if ← peekIs (.mark .openParen) then arguments nested else return []

/-- Members, subscripts and calls behind an operand. -/
def suffixesFrom : Nat → Expression → Parser Expression
  | 0, subject => return subject
  | fuel + 1, subject => do
    match ← peek with
    | some (.mark .dot) => do
      let _ ← next
      match ← next with
      | some (.name s) => suffixesFrom fuel (.member subject s)
      | some (.integer n) => suffixesFrom fuel (.item subject (.literal (.integer n)))
      | _ => fail
    | some (.mark .openBracket) => do
      let _ ← next
      suffixesFrom fuel (← subscript nested subject)
    | some (.mark .openParen) => do
      suffixesFrom fuel (.call subject (← arguments nested))
    | _ => return subject

/-- An operand with its signs and suffixes; the signs belong to the operand itself. -/
def suffixed : Parser Expression := do
  let operand ← signed .negate (.mark .minus) nested.operand
  suffixesFrom nested (← remaining) operand

/-- Whether a test's argument without parentheses starts here. -/
def startsArgument : Token → Bool
  | .name s => s != "and" && s != "or" && s != "else" && s != "is"
  | .quoted _ | .integer _ | .decimal _ _ => true
  | .mark m => m == .plus || m == .minus || m == .openBracket || m == .openBrace
  | _ => false

def testArguments : Parser (List (Passing × Expression)) := do
  match ← peek with
  | some (.mark .openParen) => arguments nested
  | some token =>
    if startsArgument token then return [(.positional, ← suffixed nested)] else return []
  | none => return []

/-- The name of a filter or a test, which may have several parts with points between them. -/
def dottedNameFrom : Nat → String → Parser String
  | 0, s => return s
  | fuel + 1, s => do
    if ← skipMark .dot then dottedNameFrom fuel (s ++ "." ++ (← name)) else return s

def dottedName : Parser String := do
  let first ← name
  dottedNameFrom (← remaining) first

/-- Filters and tests behind an operand. -/
def filtersFrom : Nat → Expression → Parser Expression
  | 0, subject => return subject
  | fuel + 1, subject => do
    if ← skipMark .pipe then
      let filter ← dottedName
      filtersFrom fuel (.filter filter subject (← optionalArguments nested))
    else if ← skipName "is" then
      let negated ← skipName "not"
      let check ← dottedName
      let tested := Expression.test check subject (← testArguments nested)
      filtersFrom fuel (if negated then .unary .not tested else tested)
    else return subject

def operand : Parser Expression := do
  let subject ← suffixed nested
  filtersFrom nested (← remaining) subject

/-- Everything below the choice by `if`. -/
def disjunction : Parser Expression :=
  disjunctionOf (operand nested)

/-- Choices behind an expression. -/
def choicesFrom : Nat → Expression → Parser Expression
  | 0, yes => return yes
  | fuel + 1, yes => do
    if ← skipName "if" then
      let test ← disjunction nested
      if ← skipName "else" then
        let no ← choicesFrom fuel (← disjunction nested)
        choicesFrom fuel (.choose test yes no)
      else choicesFrom fuel (.choose test yes (.literal .undefined))
    else return yes

def choices : Parser Expression := do
  let first ← disjunction nested
  choicesFrom nested (← remaining) first

end

/-- How deep expressions, operands and statements may nest. -/
def depthLimit : Nat := 150

/-- The parsers that are left some depth to nest in: an expression takes one level, and so does
each operand in it. -/
def levels : Nat → Nested
  | 0 => ⟨fail, fail⟩
  | depth + 1 =>
    let nested := levels depth
    ⟨choices nested, primary nested⟩

/-! ## Statements -/

def reservedNames : List String :=
  ["true", "True", "false", "False", "none", "None", "loop", "self"]

/-- A name that can be assigned to. -/
def assignable : Parser String := do
  let s ← name
  if reservedNames.contains s then fail else return s

/-- The names behind points. -/
def pathFrom : Nat → Parser (List String)
  | 0 => return []
  | fuel + 1 => do
    if ← skipMark .dot then
      let s ← name
      return s :: (← pathFrom fuel)
    else return []

/-- A name, or a member of what it stands for. -/
def assignableMember : Parser Target := do
  let s ← assignable
  match ← pathFrom (← remaining) with
  | [] => return .name s
  | path => return .member s path

/-- Whether no further target can start here. -/
def endsTargets : Option Token → Bool
  | some (.mark .closeParen) | some .outputEnd | some .tagEnd | some (.name "in") => true
  | _ => false

/-- Targets separated by commas; one without a comma stands for itself. -/
def targetsFrom (single : Parser Target) : Nat → List Target → Parser Target
  | 0, _ => fail
  | fuel + 1, targets => do
    unless targets.isEmpty do expectMark .comma
    if endsTargets (← peek) then return .parts targets.reverse
    let target ←
      if ← skipMark .openParen then
        let inner ← targetsFrom single fuel []
        expectMark .closeParen
        pure inner
      else single
    if ← peekIs (.mark .comma) then targetsFrom single fuel (target :: targets)
    else if targets.isEmpty then return target
    else return .parts (target :: targets).reverse

def targetOf (single : Parser Target) : Parser Target := do
  targetsFrom single ((← remaining) + 1) []

def target : Parser Target :=
  targetOf (Target.name <$> assignable)

/-- A name, or targets in parentheses. -/
def bindingTarget : Parser Target := do
  if ← skipMark .openParen then
    let inner ← target
    expectMark .closeParen
    return inner
  else return .name (← assignable)

section

variable (nested : Nested)
variable (bodyUpTo : List String → Parser (List Statement))

/-- An expression without a choice by `if` at its top. -/
def plain : Parser Expression :=
  disjunction nested

/-- A condition with its bodies, behind `if` or `elif`. -/
def branch : Nat → Parser Statement
  | 0 => fail
  | fuel + 1 => do
    let test ← plain nested
    expect .tagEnd
    let yes ← bodyUpTo ["endif", "else", "elif"]
    match ← next with
    | some (.name "else") => do
      expect .tagEnd
      let no ← bodyUpTo ["endif"]
      let _ ← next
      return .branch test yes no
    | some (.name "elif") => return .branch test yes [← branch fuel]
    | _ => return .branch test yes []

def loop : Parser Statement := do
  let target ← target
  expectName "in"
  let source ← plain nested
  let condition ← if ← skipName "if" then some <$> nested.expression else pure none
  let isRecursive ← skipName "recursive"
  expect .tagEnd
  let body ← bodyUpTo ["endfor", "else"]
  let otherwise ←
    if ← skipName "else" then
      expect .tagEnd
      bodyUpTo ["endfor"]
    else pure []
  let _ ← next
  return .loop target source condition isRecursive body otherwise

def bindingsFrom : Nat → List (Target × Expression) → Parser (List (Target × Expression))
  | 0, _ => fail
  | fuel + 1, bindings => do
    if ← peekIs .tagEnd then return bindings.reverse
    unless bindings.isEmpty do expectMark .comma
    let target ← bindingTarget
    expectMark .assign
    bindingsFrom fuel ((target, ← nested.expression) :: bindings)

/-- The body of a block tag and the tag that ends it. -/
def enclosed (keyword : String) : Parser (List Statement) := do
  expect .tagEnd
  let body ← bodyUpTo [keyword]
  let _ ← next
  return body

def scope : Parser Statement := do
  let bindings ← bindingsFrom nested ((← remaining) + 1) []
  return .scope bindings (← enclosed bodyUpTo "endwith")

def filteringsFrom : Nat → List Filtering → Parser (List Filtering)
  | 0, _ => fail
  | fuel + 1, filters => do
    if ← peekIs .tagEnd then
      if filters.isEmpty then fail else return filters.reverse
    unless filters.isEmpty do expectMark .pipe
    let filter ← dottedName
    filteringsFrom fuel ((filter, ← optionalArguments nested) :: filters)

/-- A chain of filters up to the end of the tag. -/
def filterings : Parser (List Filtering) := do
  filteringsFrom nested ((← remaining) + 1) []

/-- An expression up to the end of the tag, or a list if there is a comma. -/
def listUpToEnd : Nat → List Expression → Parser Expression
  | 0, _ => fail
  | fuel + 1, before => do
    let next ← nested.expression
    if ← skipMark .comma then
      if ← peekIs .tagEnd then return .list (next :: before).reverse
      listUpToEnd fuel (next :: before)
    else if before.isEmpty then return next
    else return .list (next :: before).reverse

def assignment : Parser Statement := do
  let target ← targetOf assignableMember
  if (← peekIs .tagEnd) || (← peekIs (.mark .pipe)) then
    let filters ← if ← skipMark .pipe then filterings nested else pure []
    return .assignText target filters (← enclosed bodyUpTo "endset")
  expectMark .assign
  return .assign target (← listUpToEnd nested ((← remaining) + 1) [])

/-- Text without any characters but blanks. -/
def isBlankText : Statement → Bool
  | .text s => s.toList.all Text.isBlank
  | _ => false

/-- A block; one that has to be replaced holds nothing itself. -/
def block : Parser Statement := do
  if (← get).inProcedure then fail
  let blockName ← name
  let _ ← skipName "scoped"
  let isRequired ← skipName "required"
  if ((← get).blocks.lookup blockName).isSome then fail
  modify fun r => { r with blocks := (blockName, ⟨[], isRequired⟩) :: r.blocks }
  let body ← enclosed bodyUpTo "endblock"
  if isRequired && !body.all isBlankText then fail
  match ← peek with
  | some (.name s) => if s = blockName then let _ ← next else fail
  | _ => pure ()
  let fill (entry : String × Block) : String × Block :=
    if entry.1 = blockName then (blockName, ⟨body, isRequired⟩) else entry
  modify fun r => { r with blocks := r.blocks.map fill }
  return .block blockName

/-- `with context` and `without context` change nothing. -/
def skipContext : Parser Bool := do
  if (← skipName "with") || (← skipName "without") then
    expectName "context"
    return true
  else return false

def embed : Parser Statement := do
  let template ← nested.expression
  let _ ← skipContext
  if ← skipName "ignore" then
    expectName "missing"
    let _ ← skipContext
    return .embed template true
  return .embed template false

def importNamesFrom : Nat → List (Target × String) → Parser (List (Target × String))
  | 0, _ => fail
  | fuel + 1, names => do
    if ← skipContext then return names.reverse
    unless names.isEmpty do expectMark .comma
    if (← peekIs .tagEnd) || (← skipContext) then return names.reverse
    let source ← assignable
    let target ← if ← skipName "as" then assignable else pure source
    let names := (Target.name target, source) :: names
    if ← peekIs .tagEnd then return names.reverse
    importNamesFrom fuel names

def importAs : Parser Statement := do
  let template ← nested.expression
  expectName "as"
  let target ← assignable
  let _ ← skipContext
  return .importAs template (.name target)

def importNames : Parser Statement := do
  let template ← nested.expression
  expectName "import"
  return .importNames template (← importNamesFrom ((← remaining) + 1) [])

/-- Parameters up to the closing parenthesis; behind one with a fallback all others have one. -/
def parametersFrom : Nat → List Parameter → Parser (List Parameter)
  | 0, _ => fail
  | fuel + 1, parameters => do
    if ← skipMark .closeParen then return parameters.reverse
    unless parameters.isEmpty do expectMark .comma
    if !parameters.isEmpty && (← skipMark .closeParen) then return parameters.reverse
    let parameter ← assignable
    if ← skipMark .assign then
      parametersFrom fuel (⟨parameter, some (← nested.expression)⟩ :: parameters)
    else if parameters.any (·.fallback.isSome) then fail
    else parametersFrom fuel (⟨parameter, none⟩ :: parameters)

def procedure : Parser Statement := do
  let procedureName ← name
  expectMark .openParen
  let parameters ← parametersFrom nested ((← remaining) + 1) []
  let outer := (← get).inProcedure
  modify fun r => { r with inProcedure := true }
  expect .tagEnd
  let body ← bodyUpTo ["endmacro"]
  modify fun r => { r with inProcedure := outer }
  let _ ← next
  return .procedure procedureName parameters body

/-- An expression that is evaluated for what it does, which only a call can be. -/
def evaluation : Parser Statement := do
  match ← nested.expression with
  | .call callee arguments => return .evaluate (.call callee arguments)
  | _ => fail

/-- A statement behind its start mark; `bodyUpTo` reads the statements up to a tag that starts
with one of some keywords. -/
def statementWith : Parser Statement := do
  match ← next with
  | some (.name "for") => loop nested bodyUpTo
  | some (.name "if") => branch nested bodyUpTo ((← remaining) + 1)
  | some (.name "with") => scope nested bodyUpTo
  | some (.name "set") => assignment nested bodyUpTo
  | some (.name "autoescape") => do
    let enabled ← nested.expression
    return .escaping enabled (← enclosed bodyUpTo "endautoescape")
  | some (.name "filter") => do
    let filters ← filterings nested
    return .filtered filters (← enclosed bodyUpTo "endfilter")
  | some (.name "block") => block bodyUpTo
  | some (.name "extends") => return .extend (← nested.expression)
  | some (.name "include") => embed nested
  | some (.name "import") => importAs nested
  | some (.name "from") => importNames nested
  | some (.name "macro") => procedure nested bodyUpTo
  | some (.name "do") => evaluation nested
  | _ => fail

end

/-- The statements up to the end of the template, or up to a tag that starts with one of some
keywords; that keyword is left as the next token. -/
def statementsFrom (nested : Nested) (statement : Parser Statement)
    (keywords : List String) : Nat → Parser (List Statement)
  | 0 => fail
  | fuel + 1 => do
    match ← next with
    | none => return []
    | some (.text s) => return .text s :: (← statementsFrom nested statement keywords fuel)
    | some .outputStart => do
      let value ← nested.expression
      expect .outputEnd
      return .emit value :: (← statementsFrom nested statement keywords fuel)
    | some .tagStart => do
      match ← peek with
      | none => fail
      | some token =>
        if keywords.any fun keyword => token == .name keyword then return []
        else
          let first ← statement
          expect .tagEnd
          return first :: (← statementsFrom nested statement keywords fuel)
    | some _ => fail

/-- A statement that nests less than the given depth. -/
def statement : Nat → Parser Statement
  | 0 => fail
  | depth + 1 =>
    statementWith (levels depth) fun keywords => do
      statementsFrom (levels depth) (statement depth) keywords ((← remaining) + 1)

end Parser

/-- Reads a template's text. -/
def compile (name source : String) : Except Fault Template := do
  let tokens := tokens source
  let statements := Parser.statementsFrom (Parser.levels Parser.depthLimit)
    (Parser.statement Parser.depthLimit) [] (tokens.length + 1)
  let (body, reading) ← statements.run ⟨tokens, [], false⟩
  return ⟨name, body, reading.blocks⟩

end SchemaCodegen.Template
