import SchemaCodegen.Decimal.Shortest
import SchemaCodegen.Json.Basic
import SchemaCodegen.Json.Printer
import SchemaCodegen.Template.Tree
import SchemaCodegen.Text.Printable

/-!
# Template values

The values that expressions have: their kinds, their order, what counts as true, and their text,
alone and inside of a list or a map.
-/

namespace SchemaCodegen.Template

/-- Functions that every template knows. -/
inductive Builtin where
  | range
  | dict
deriving DecidableEq, Repr

/-- A procedure that a template defines; `closure` names the variables that it sees. -/
structure Procedure where
  name : String
  parameters : List Parameter
  body : List Statement
  closure : Nat

/-- Whether a procedure reads the variable `caller`, which it then has in every call. -/
def Procedure.usesCaller (p : Procedure) : Bool :=
  !p.parameters.any (·.name == "caller") &&
    (statementsRead "caller" p.body ||
      p.parameters.any fun parameter => parameter.fallback.any (·.reads "caller"))

inductive Value where
  | undefined
  | none
  | bool (value : Bool)
  | integer (value : Int)
  | decimal (value : Float)
  /-- Text, and whether it is safe to be written without escaping. -/
  | text (value : String) (isSafe : Bool)
  | list (items : List Value)
  /-- Items that something else makes, such as a range or a slice of a list. -/
  | series (items : List Value)
  /-- Entries by ascending key. -/
  | map (entries : List (Value × Value))
  /-- The state of a loop: the item's place from zero, the number of items if it is known ahead,
  how many loops are around it, and the neighbours of the item. -/
  | loop (index : Nat) (length : Option Nat) (depth : Nat) (previous next : Value)
  | procedure (value : Procedure)
  /-- What another template has set, and the text that it wrote. -/
  | module (entries : List (Value × Value)) (output : String)
  | builtin (value : Builtin)
deriving Inhabited

namespace Value

def ofText (s : String) : Value :=
  .text s false

def ofNat (n : Nat) : Value :=
  .integer n

/-- The rank of a value's kind, by which values of different kinds are ordered. -/
def rank : Value → Nat
  | .undefined => 0
  | .none => 1
  | .bool _ => 2
  | .integer _ | .decimal _ => 3
  | .text _ _ => 4
  | .list _ => 6
  | .map _ | .loop _ _ _ _ _ | .procedure _ | .module _ _ => 7
  | .series _ => 8
  | .builtin _ => 9

def isUndefined : Value → Bool
  | .undefined => true
  | _ => false

/-- Neither undefined nor none. -/
def isPresent : Value → Bool
  | .undefined | .none => false
  | _ => true

def isNumber : Value → Bool
  | .integer _ | .decimal _ => true
  | _ => false

def text? : Value → Option String
  | .text s _ => some s
  | _ => Option.none

/-- Whether a value is text that is written without escaping. -/
def isSafe : Value → Bool
  | .text _ safe => safe
  | _ => false

/-- Whether a value is neither missing nor a truth value, a number or text, so that two of its kind
may be equal without being the same. -/
def isObject : Value → Bool
  | .undefined | .none | .bool _ | .integer _ | .decimal _ | .text _ _ => false
  | _ => true

/-- The items of a list or a series. -/
def items? : Value → Option (List Value)
  | .list items | .series items => some items
  | _ => Option.none

/-- A number that may not be known. -/
def ofCount (n : Option Nat) : Value :=
  (n.map ofNat).getD .undefined

/-- What a loop's state says, by name. Where the number of items is not known ahead, no item is
the last one. -/
def loopEntries (index : Nat) (length : Option Nat) (depth : Nat) (previous next : Value) :
    List (Value × Value) :=
  [(ofText "index0", ofNat index),
   (ofText "index", ofNat (index + 1)),
   (ofText "length", ofCount length),
   (ofText "revindex", ofCount (length.map (· - index))),
   (ofText "revindex0", ofCount (length.map (· - index - 1))),
   (ofText "first", .bool (index == 0)),
   (ofText "last", .bool (length == some (index + 1))),
   (ofText "depth", ofNat (depth + 1)),
   (ofText "depth0", ofNat depth),
   (ofText "previtem", previous),
   (ofText "nextitem", next)]

/-- What a procedure says about itself, by name. -/
def procedureEntries (p : Procedure) : List (Value × Value) :=
  [(ofText "name", ofText p.name),
   (ofText "arguments", .list (p.parameters.map fun parameter => ofText parameter.name)),
   (ofText "caller", .bool p.usesCaller)]

/-- The entries of a map, or of what can be used like one. -/
def entries? : Value → Option (List (Value × Value))
  | .map entries | .module entries _ => some entries
  | .loop index length depth previous next => some (loopEntries index length depth previous next)
  | .procedure p => some (procedureEntries p)
  | _ => Option.none

/-- What counts as true: everything but what is missing, zero or empty. -/
def isTrue : Value → Bool
  | .undefined | .none => false
  | .bool b => b
  | .integer n => n != 0
  | .decimal x => x != 0.0
  | .text s _ => !s.isEmpty
  | .list items | .series items => !items.isEmpty
  | .map entries | .module entries _ => !entries.isEmpty
  | .loop _ _ _ _ _ | .procedure _ | .builtin _ => true

/-! ## Comparison -/

/-- The bounds of whole numbers in arithmetic. -/
def integerBound : Int := (1 <<< 127 : Nat)

/-- A value as a whole number; truth values count as one and zero. -/
def integer? : Value → Option Int
  | .bool b => some (if b then 1 else 0)
  | .integer n => if n < integerBound then some n else Option.none
  | _ => Option.none

/-- Whether a double stands for a whole number alone. The largest numbers of 64 and of 128 bits
share theirs with the power of two behind them. -/
def isExact (n : Int) (x : Float) : Bool :=
  let m := Decimal.toInt x
  m = n || (m = n + 1 && (m = (1 <<< 64 : Nat) || m = (1 <<< 128 : Nat)))

/-- A value as a double; unless `lossy`, only a whole number that a double stands for alone. -/
def decimal? (lossy : Bool) : Value → Option Float
  | .bool b => some (if b then 1.0 else 0.0)
  | .integer n =>
    let x := Float.ofInt n
    if lossy || isExact n x then some x else Option.none
  | .decimal x => some x
  | _ => Option.none

/-- Two values brought to one kind. -/
inductive Coerced where
  | integers (a b : Int)
  | decimals (a b : Float)
  | texts (a b : String)

/-- Two values as whole numbers. Numbers beyond 64 bits go together as signed ones of 128 bits;
otherwise both have to be within the bounds. -/
def integers? : Value → Value → Option (Int × Int)
  | .integer m, .integer n =>
    if (1 <<< 64 : Nat) ≤ m && (1 <<< 64 : Nat) ≤ n then
      some (m.bmod (1 <<< 128), n.bmod (1 <<< 128))
    else do return (← integer? (.integer m), ← integer? (.integer n))
  | a, b => do return (← integer? a, ← integer? b)

def coerce? (lossy : Bool) : Value → Value → Option Coerced
  | .text a _, .text b _ => some (.texts a b)
  | .decimal a, b => (decimal? lossy b).map (.decimals a)
  | a, .decimal b => (decimal? lossy a).map (.decimals · b)
  | a, b => (integers? a b).map fun (m, n) => .integers m n

/-- A key that orders doubles totally, the negative zero before the positive one. -/
def orderKey (x : Float) : Int :=
  let bits := x.toBits.toNat
  if bits < 1 <<< 63 then bits else -(bits - 1 <<< 63 : Nat) - 1

/-- The order of a whole number and a double by their exact sizes. -/
def compareExact (n : Int) (x : Float) : Ordering :=
  if x.isNaN || x.isInf then if orderKey x < 0 then .gt else .lt
  else
    let (m, e) := Decimal.toFraction x
    compare (n * Nat.pow 2 (-e).toNat) (m * Nat.pow 2 e.toNat)

/-- The order of numbers that no common kind holds. -/
def compareApart : Value → Value → Ordering
  | .integer m, .integer n => compare m n
  | .integer n, .decimal x => compareExact n x
  | .decimal x, .integer n => (compareExact n x).swap
  | _, _ => .eq

/-- The order of values of one kind that are neither lists nor maps. -/
def compareAlike (a b : Value) : Ordering :=
  match coerce? false a b with
  | some (.integers m n) => compare m n
  | some (.decimals x y) => compare (orderKey x) (orderKey y)
  | some (.texts s t) => compare s t
  | Option.none => compareApart a b

/-- The order of values without parts: first by their kinds. -/
def compareScalars (a b : Value) : Ordering :=
  (compare a.rank b.rank).then (compareAlike a b)

mutual

/-- The total order of values: numbers by size, texts by characters, lists and maps item by item,
and anything else by its kind. -/
def order : Value → Value → Ordering
  | .list as, .list bs | .series as, .series bs => orderItems as bs
  | .map as, .map bs | .module as _, .module bs _ => orderEntries as bs
  | a, b => compareScalars a b

def orderItems : List Value → List Value → Ordering
  | [], [] => .eq
  | [], _ :: _ => .lt
  | _ :: _, [] => .gt
  | a :: as, b :: bs => (order a b).then (orderItems as bs)

def orderEntries : List (Value × Value) → List (Value × Value) → Ordering
  | [], [] => .eq
  | [], _ :: _ => .lt
  | _ :: _, [] => .gt
  | (k, a) :: as, (l, b) :: bs => ((order k l).then (order a b)).then (orderEntries as bs)

end

/-- Equality of values without parts. Loops are the same at the same place, procedures if they
have one name and see the same variables. -/
def equalScalars (a b : Value) : Bool :=
  match a, b with
  | .none, .none => true
  | .undefined, .undefined => true
  | .loop i m d _ _, .loop j n e _ _ => i == j && m == n && d == e
  | .procedure p, .procedure q => p.name == q.name && p.closure == q.closure
  | .builtin f, .builtin g => f == g
  | a, b =>
    match coerce? false a b with
    | some (.integers m n) => m == n
    | some (.decimals x y) => x == y
    | some (.texts s t) => s == t
    | Option.none => false

mutual

def equal : Value → Value → Bool
  | .list as, .list bs | .list as, .series bs | .series as, .list bs | .series as, .series bs =>
    equalItems as bs
  | .map as, .map bs | .module as _, .module bs _ => equalEntries as bs
  | a, b => equalScalars a b

def equalItems : List Value → List Value → Bool
  | [], [] => true
  | a :: as, b :: bs => equal a b && equalItems as bs
  | _, _ => false

def equalEntries : List (Value × Value) → List (Value × Value) → Bool
  | [], [] => true
  | (k, a) :: as, (l, b) :: bs => equal k l && equal a b && equalEntries as bs
  | _, _ => false

end

/-! ## Maps -/

/-- The entries with one more, which replaces an entry of the same key. -/
def insertEntry (key value : Value) : List (Value × Value) → List (Value × Value)
  | [] => [(key, value)]
  | (k, v) :: entries =>
    match order key k with
    | .lt => (key, value) :: (k, v) :: entries
    | .eq => (k, value) :: entries
    | .gt => (k, v) :: insertEntry key value entries

def mapOf (entries : List (Value × Value)) : Value :=
  .map (entries.foldl (fun sorted (k, v) => insertEntry k v sorted) [])

/-- The value of an entry. -/
def valueAt? (key : Value) : List (Value × Value) → Option Value
  | [] => Option.none
  | (k, v) :: entries => if order key k == .eq then some v else valueAt? key entries

/-! ## Text -/

/-- A character inside of quoted text. -/
def quotedChar (c : Char) : List Char :=
  if c = '"' then ['\\', '"']
  else if c = '\\' then ['\\', '\\']
  else if c = '\n' then ['\\', 'n']
  else if c = '\r' then ['\\', 'r']
  else if c = '\t' then ['\\', 't']
  else if c = '\x00' then ['\\', '0']
  else if Text.isPrintable c then [c]
  else '\\' :: 'u' :: '\x7b' :: (Nat.toDigits 16 c.toNat ++ ['\x7d'])

def quoted (s : String) : String :=
  String.ofList ('"' :: (s.toList.flatMap quotedChar ++ ['"']))

def boolText (b : Bool) : String :=
  if b then "True" else "False"

/-- A number that may not be known, as text. -/
def countText (n : Option Nat) : String :=
  (n.map toString).getD "?"

mutual

/-- The text of a value inside of a list or a map. -/
def shown : Value → String
  | .undefined => "undefined"
  | .none => "None"
  | .bool b => boolText b
  | .integer n => toString n
  | .decimal x => Decimal.conciseText x
  | .text s _ => quoted s
  | .list items | .series items => "[" ++ shownItems items ++ "]"
  | .map entries | .module entries _ => "\x7b" ++ shownEntries entries ++ "\x7d"
  | .loop index length _ _ _ => "<loop " ++ toString index ++ "/" ++ countText length ++ ">"
  | .procedure p => "<macro " ++ p.name ++ ">"
  | .builtin .range => "range"
  | .builtin .dict => "dict"

def shownItems : List Value → String
  | [] => ""
  | [item] => shown item
  | item :: items => shown item ++ ", " ++ shownItems items

def shownEntries : List (Value × Value) → String
  | [] => ""
  | [(key, value)] => shown key ++ ": " ++ shown value
  | (key, value) :: entries => shown key ++ ": " ++ shown value ++ ", " ++ shownEntries entries

end

/-- The text of a value on its own: nothing for one that is undefined, and what it wrote for a
template. -/
def display : Value → String
  | .undefined => ""
  | .text s _ => s
  | .module _ output => output
  | .decimal x => Decimal.text x
  | value => shown value

/-- Text as it can stand in a page: the characters with a meaning there are replaced. -/
def escapeChar (c : Char) : List Char :=
  match c with
  | '&' => "&amp;".toList
  | '<' => "&lt;".toList
  | '>' => "&gt;".toList
  | '"' => "&quot;".toList
  | '\'' => "&#x27;".toList
  | '/' => "&#x2f;".toList
  | c => [c]

def escape (s : String) : String :=
  String.ofList (s.toList.flatMap escapeChar)

/-- The text that a value is written as in a page: only texts, lists and maps can hold a character
that needs escaping. -/
def escaped : Value → String
  | .text s true => s
  | .text s false => escape s
  | .undefined => ""
  | .none => "None"
  | .bool b => boolText b
  | .integer n => toString n
  | .decimal x => Decimal.text x
  | value => escape value.display

/-! ## Data -/

def ofNumber : Json.Number → Value
  | .integer n => .integer n
  | number => .decimal (number.toFloat?.getD 0.0)

mutual

/-- JSON data as a value. -/
def ofJson : Json → Value
  | .null => .none
  | .bool b => .bool b
  | .number n => ofNumber n
  | .text s => .text s false
  | .array items => .list (ofJsonItems items)
  | .object members => mapOf (ofJsonMembers members)
  | .flawed _ | .unread _ => .none

def ofJsonItems : List Json → List Value
  | [] => []
  | item :: items => ofJson item :: ofJsonItems items

def ofJsonMembers : List (String × Json) → List (Value × Value)
  | [] => []
  | (name, value) :: members => (.text name false, ofJson value) :: ofJsonMembers members

end

def ofLiteral : Literal → Value
  | .undefined => .undefined
  | .none => .none
  | .bool b => .bool b
  | .integer n => .integer n
  | .decimal significand exponent =>
    .decimal (Float.ofScientific significand (exponent < 0) exponent.natAbs)
  | .text s => .text s false

end Value

end SchemaCodegen.Template
