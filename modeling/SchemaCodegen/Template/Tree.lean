/-!
# Template trees

What a template says once its text has been read: expressions, statements, and the template as a
whole with the blocks that it defines.
-/

namespace SchemaCodegen

namespace Template

inductive Literal where
  | undefined
  | none
  | bool (value : Bool)
  | integer (value : Nat)
  | decimal (significand : Nat) (exponent : Int)
  | text (value : String)
deriving DecidableEq, Repr

inductive UnaryOperator where
  | not
  | negate
deriving DecidableEq, Repr

inductive BinaryOperator where
  | or | and
  | add | subtract | concat | multiply | divide | floorDivide | modulo | power
deriving DecidableEq, Repr

inductive Comparison where
  | equal | unequal | less | lessEqual | greater | greaterEqual
  /-- The left value is in the right one. -/
  | within
  /-- The left value is not in the right one. -/
  | outside
deriving DecidableEq, Repr

/-- How an argument is handed over. -/
inductive Passing where
  | positional
  /-- Each item of a list as an argument of its own. -/
  | spread
  | named (name : String)
  /-- Each entry of a map as a named argument. -/
  | spreadNamed
deriving DecidableEq, Repr

inductive Expression where
  | literal (value : Literal)
  | variable (name : String)
  | list (items : List Expression)
  | map (entries : List (Expression × Expression))
  | member (subject : Expression) (name : String)
  | item (subject key : Expression)
  | slice (subject start stop step : Expression)
  | unary (operator : UnaryOperator) (operand : Expression)
  | binary (operator : BinaryOperator) (left right : Expression)
  /-- A chain of comparisons, each of them with the operand of the one before. -/
  | compare (first : Expression) (links : List (Comparison × Expression))
  | choose (test yes no : Expression)
  | filter (name : String) (subject : Expression) (arguments : List (Passing × Expression))
  | test (name : String) (subject : Expression) (arguments : List (Passing × Expression))
  | call (callee : Expression) (arguments : List (Passing × Expression))
deriving Repr, Inhabited

/-- What a value is assigned to. -/
inductive Target where
  | name (name : String)
  /-- A member of what a name stands for, at the end of a path of members. -/
  | member (name : String) (path : List String)
  /-- One part of a list to each of several targets. -/
  | parts (targets : List Target)
deriving Repr, Inhabited

/-- A parameter of a procedure, with the expression for a missing argument. -/
structure Parameter where
  name : String
  fallback : Option Expression
deriving Repr

/-- A filter with its arguments. -/
abbrev Filtering := String × List (Passing × Expression)

inductive Statement where
  | text (value : String)
  | emit (value : Expression)
  | evaluate (value : Expression)
  | branch (test : Expression) (yes no : List Statement)
  /-- The body for each item of the source that passes the condition, or `otherwise` for none. -/
  | loop (target : Target) (source : Expression) (condition : Option Expression)
      (isRecursive : Bool) (body otherwise : List Statement)
  | scope (bindings : List (Target × Expression)) (body : List Statement)
  | assign (target : Target) (value : Expression)
  | assignText (target : Target) (filters : List Filtering) (body : List Statement)
  | escaping (enabled : Expression) (body : List Statement)
  | filtered (filters : List Filtering) (body : List Statement)
  | block (name : String)
  | extend (template : Expression)
  | embed (template : Expression) (ignoresMissing : Bool)
  | importAs (template : Expression) (name : Target)
  /-- Each name of a template under a name of its own. -/
  | importNames (template : Expression) (names : List (Target × String))
  | procedure (name : String) (parameters : List Parameter) (body : List Statement)
deriving Repr, Inhabited

/-- Whether the value of an expression may be one that something else holds too. A list or a map of
any other expression is made by it. -/
def Expression.isShared : Expression → Bool
  | .literal _ | .variable _ => true
  | .member subject _ | .item subject _ => subject.isShared
  | .binary .or left right | .binary .and left right | .choose _ left right =>
    left.isShared || right.isShared
  | .filter name subject _ =>
    ["default", "d", "first", "last", "min", "max"].contains name && subject.isShared
  | _ => false

/-! ## Variables that are read -/

mutual

/-- Whether an expression reads a variable. -/
def Expression.reads (name : String) : Expression → Bool
  | .literal _ => false
  | .variable s => s == name
  | .list items => itemsRead name items
  | .map entries => entriesRead name entries
  | .member subject _ => subject.reads name
  | .item subject key => subject.reads name || key.reads name
  | .slice subject start stop step =>
    subject.reads name || start.reads name || stop.reads name || step.reads name
  | .unary _ operand => operand.reads name
  | .binary _ left right => left.reads name || right.reads name
  | .compare first links => first.reads name || linksRead name links
  | .choose test yes no => test.reads name || yes.reads name || no.reads name
  | .filter _ subject arguments | .test _ subject arguments =>
    subject.reads name || argumentsRead name arguments
  | .call callee arguments => callee.reads name || argumentsRead name arguments

def itemsRead (name : String) : List Expression → Bool
  | [] => false
  | e :: es => e.reads name || itemsRead name es

def entriesRead (name : String) : List (Expression × Expression) → Bool
  | [] => false
  | (key, value) :: entries => key.reads name || value.reads name || entriesRead name entries

def linksRead (name : String) : List (Comparison × Expression) → Bool
  | [] => false
  | (_, e) :: links => e.reads name || linksRead name links

def argumentsRead (name : String) : List (Passing × Expression) → Bool
  | [] => false
  | (_, e) :: arguments => e.reads name || argumentsRead name arguments

end

def filtersRead (name : String) (filters : List Filtering) : Bool :=
  filters.any fun (_, arguments) => argumentsRead name arguments

mutual

/-- Whether a statement reads a variable; a procedure inside of it reads its own variables. -/
def Statement.reads (name : String) : Statement → Bool
  | .text _ | .block _ | .procedure _ _ _ => false
  | .emit value | .evaluate value | .assign _ value => value.reads name
  | .branch test yes no => test.reads name || statementsRead name yes || statementsRead name no
  | .loop _ source condition _ body otherwise =>
    source.reads name || condition.any (·.reads name) || statementsRead name body ||
      statementsRead name otherwise
  | .scope bindings body => bindings.any (fun (_, e) => e.reads name) || statementsRead name body
  | .assignText _ filters body | .filtered filters body =>
    filtersRead name filters || statementsRead name body
  | .escaping enabled body => enabled.reads name || statementsRead name body
  | .extend template | .embed template _ | .importAs template _ | .importNames template _ =>
    template.reads name

def statementsRead (name : String) : List Statement → Bool
  | [] => false
  | statement :: rest => statement.reads name || statementsRead name rest

end

/-- What a template says in place of a name. -/
structure Block where
  body : List Statement
  /-- The block has to be replaced before it is written. -/
  isRequired : Bool
deriving Repr, Inhabited

end Template

/-- A template whose text has been read. -/
structure Template where
  name : String
  body : List Template.Statement
  blocks : List (String × Template.Block)
deriving Repr, Inhabited

end SchemaCodegen
