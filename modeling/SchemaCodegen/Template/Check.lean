import SchemaCodegen.Template.Operator
import SchemaCodegen.Text.Case

/-!
# Tests on template values

What `is` asks of a value. Each test has a name and takes a fixed number of arguments.
-/

namespace SchemaCodegen.Template

/-- The arguments of a filter, a test or a call. -/
structure Arguments where
  positional : List Value
  named : List (String × Value)

/-- The arguments of something that takes at most `limit` of them and none by name. -/
def Arguments.upTo (limit : Nat) (arguments : Arguments) : Except Fault (List Value) :=
  let count := arguments.positional.length + if arguments.named.isEmpty then 0 else 1
  if limit < count then .error .tooManyArguments
  else if arguments.named.isEmpty then .ok arguments.positional
  else .error .invalidOperation

def Arguments.none : Arguments :=
  ⟨[], []⟩

/-- A test: whether it holds of a value, given its arguments. -/
abbrev Check := Value → List Value → Except Fault Bool

namespace Check

/-- A test without arguments. -/
def plain (holds : Value → Bool) : Check
  | value, [] => .ok (holds value)
  | _, _ => .error .tooManyArguments

/-- A test with one argument. -/
def withArgument (holds : Value → Value → Bool) : Check
  | _, [] => .error .missingArgument
  | value, [other] => .ok (holds value other)
  | _, _ => .error .tooManyArguments

/-- A test of text without arguments. -/
def ofText (holds : String → Bool) : Check
  | .text s _, [] => .ok (holds s)
  | .text _ _, _ => .error .tooManyArguments
  | _, _ => .error .invalidOperation

def isParity (rest : Int) (value : Value) : Bool :=
  value.whole?.any fun n => n % 2 == rest

def isDivisible (a b : Value) : Bool :=
  match Value.coerce? false a b with
  | some (.integers m n) => n != 0 && m % n == 0
  | some (.decimals x y) => Decimal.remainder x y == 0.0
  | _ => false

def isInteger : Value → Bool
  | .integer _ => true
  | _ => false

def isBool : Value → Bool
  | .bool _ => true
  | _ => false

def isDecimal : Value → Bool
  | .decimal _ => true
  | _ => false

def isMap (value : Value) : Bool :=
  value.entries?.isSome

def isList : Value → Bool
  | .list _ => true
  | _ => false

def isNone : Value → Bool
  | .none => true
  | _ => false

def isIterable (value : Value) : Bool :=
  match value.iterate with
  | .ok _ => true
  | .error _ => false

/-- Whether a value is one of a container's items; no value is in what is no container. -/
def isWithin (value container : Value) : Bool :=
  match container.contains value with
  | .ok found => found
  | .error _ => false

/-- The filters that there are. -/
def filterNames : List String :=
  ["upper", "lower", "title", "capitalize", "trim", "replace", "split", "escape", "e", "safe",
   "string", "join", "first", "last", "length", "count", "reverse", "sort", "min", "max", "sum",
   "items", "list", "select", "reject", "selectattr", "rejectattr", "map", "abs", "int", "float",
   "default", "d"]

/-- The tests that look at a value, by name. -/
def ofValue? : String → Option Check
  | "undefined" => some (plain Value.isUndefined)
  | "defined" => some (plain fun v => !v.isUndefined)
  | "none" => some (plain isNone)
  | "boolean" => some (plain isBool)
  | "true" => some (plain fun v => isBool v && v.isTrue)
  | "false" => some (plain fun v => isBool v && !v.isTrue)
  | "number" => some (plain Value.isNumber)
  | "integer" | "int" => some (plain isInteger)
  | "float" => some (plain isDecimal)
  | "string" => some (plain fun v => v.text?.isSome)
  | "sequence" => some (plain isList)
  | "mapping" => some (plain isMap)
  | "iterable" => some (plain isIterable)
  | "safe" | "escaped" => some (plain Value.isSafe)
  | "odd" => some (plain (isParity 1))
  | "even" => some (plain (isParity 0))
  | "divisibleby" => some (withArgument isDivisible)
  | "startingwith" =>
    some (withArgument fun a b => Text.startsWith b.display.toList a.display.toList)
  | "endingwith" =>
    some (withArgument fun a b => Text.startsWith b.display.toList.reverse a.display.toList.reverse)
  | "lower" => some (ofText fun s => s.toList.all Text.isLower)
  | "upper" => some (ofText fun s => s.toList.all Text.isUpper)
  | "sameas" => some (withArgument fun a b =>
    Value.equal a b && a.rank == b.rank && isInteger a == isInteger b)
  | "eq" | "equalto" | "==" => some (withArgument Value.equal)
  | "ne" | "!=" => some (withArgument fun a b => !Value.equal a b)
  | "lt" | "lessthan" | "<" => some (withArgument fun a b => Value.order a b == .lt)
  | "le" | "<=" => some (withArgument fun a b => Value.order a b != .gt)
  | "gt" | "greaterthan" | ">" => some (withArgument fun a b => Value.order a b == .gt)
  | "ge" | ">=" => some (withArgument fun a b => Value.order a b != .lt)
  | "in" => some (withArgument isWithin)
  | _ => Option.none

/-- The tests by name, those of names among them. -/
def find? : String → Option Check
  | "filter" => some (ofText filterNames.contains)
  | "test" => some (ofText fun s => s == "filter" || s == "test" || (ofValue? s).isSome)
  | name => ofValue? name

/-- Applies a test by its name. -/
def apply (name : String) (value : Value) (arguments : Arguments) : Except Fault Bool := do
  match find? name with
  | some check => check value (← arguments.upTo (arguments.positional.length + 1))
  | Option.none => throw .unknownTest

end Check

end SchemaCodegen.Template
