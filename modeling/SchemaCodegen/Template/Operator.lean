import SchemaCodegen.Failure
import SchemaCodegen.Json.Reader
import SchemaCodegen.Template.Value
import SchemaCodegen.Text.Search

/-!
# Operators on template values

Arithmetic, membership, members, items and slices. Whole numbers have 127 bits and a sign; a
result beyond them, a division of whole numbers by zero and operands of the wrong kind are
invalid operations.
-/

namespace SchemaCodegen.Template.Value

/-- A whole number, if it is within the bounds. -/
def ofBounded (n : Int) : Except Fault Value :=
  if -integerBound ≤ n && n < integerBound then .ok (.integer n) else .error .invalidOperation

/-- An operation on two numbers of one kind. -/
def arithmetic (onIntegers : Int → Int → Except Fault Value) (onDecimals : Float → Float → Float)
    (a b : Value) : Except Fault Value :=
  match coerce? true a b with
  | some (.integers m n) => onIntegers m n
  | some (.decimals x y) => .ok (.decimal (onDecimals x y))
  | _ => .error .invalidOperation

/-- The quotient rounded so that the remainder is not negative. -/
def floorQuotient (x y : Float) : Float :=
  let quotient := Decimal.truncate (x / y)
  if Decimal.remainder x y < 0.0 then (if y > 0.0 then quotient - 1.0 else quotient + 1.0)
  else quotient

def add (a b : Value) : Except Fault Value :=
  match a.items?, b.items? with
  | some as, some bs => .ok (.series (as ++ bs))
  | _, _ =>
    match a, b with
    | .text s _, .text t _ => .ok (ofText (s ++ t))
    | a, b => arithmetic (fun m n => ofBounded (m + n)) (· + ·) a b

/-- A whole number. A double is one if it has no fraction and fits in 64 bits; of these, the one
behind the largest number of 64 bits stands for that number. -/
def whole? : Value → Option Int
  | .decimal x =>
    let n := Decimal.toInt x
    if Decimal.isWhole x && n.natAbs ≤ 1 <<< 63 then some (min n ((1 <<< 63 : Nat) - 1))
    else Option.none
  | value => value.integer?

/-- A whole number of 64 bits with a sign. -/
def word? (value : Value) : Option Int :=
  value.whole?.filter fun n => -(1 <<< 63 : Nat) ≤ n && n < (1 <<< 63 : Nat)

/-- How often something is repeated. -/
def repetitions (value : Value) : Except Fault Nat :=
  match value.whole? with
  | some n => if 0 ≤ n && n < (1 <<< 64 : Nat) then .ok n.toNat else .error .invalidOperation
  | Option.none => .error .invalidOperation

/-- The most bytes or items that a repetition may give. -/
def repetitionLimit : Nat := 100000000

/-- A text repeated, by doubling; `fuel` bounds the number of binary digits of `n`. -/
def repeatText (s : String) : Nat → Nat → String
  | 0, _ => ""
  | fuel + 1, n =>
    if n = 0 then ""
    else
      let half := repeatText s fuel (n / 2)
      if n % 2 = 0 then half ++ half else half ++ half ++ s

def multiplyText (s : String) (times : Value) : Except Fault Value := do
  let n ← repetitions times
  if repetitionLimit < n * s.utf8ByteSize then throw .invalidOperation
  return ofText (repeatText s 64 n)

def multiplyItems (items : List Value) (times : Value) : Except Fault Value := do
  let n ← repetitions times
  if items.isEmpty then return .series []
  if repetitionLimit < n * items.length then throw .invalidOperation
  return .series (List.replicate n items).flatten

def multiply (a b : Value) : Except Fault Value := do
  match a, b with
  | .text s _, n | n, .text s _ => multiplyText s n
  | a, b =>
    match a.items?, b.items? with
    | some items, _ => multiplyItems items b
    | Option.none, some items => multiplyItems items a
    | Option.none, Option.none => arithmetic (fun m n => ofBounded (m * n)) (· * ·) a b

def divide (a b : Value) : Except Fault Value :=
  match a.decimal? true, b.decimal? true with
  | some x, some y => .ok (.decimal (x / y))
  | _, _ => .error .invalidOperation

/-- A whole power with a size that stays within the bounds. -/
def integerPower (m n : Int) : Except Fault Value :=
  if n < 0 || (1 <<< 32 : Nat) ≤ n then .error .invalidOperation
  else if m.natAbs ≤ 1 then
    .ok (.integer (if m = 1 || n = 0 then 1 else if m = 0 then 0 else if n % 2 = 0 then 1 else -1))
  else if 128 ≤ n then .error .invalidOperation
  else ofBounded (Int.pow m n.toNat)

/-- The value of an entry that a map, or what can be used like one, has under a key. -/
def valueUnder? (key value : Value) : Option Value :=
  value.entries?.bind (valueAt? key)

/-- Whether a value occurs in a text, a list, or as the key of a map. -/
def contains (container value : Value) : Except Fault Bool :=
  match container with
  | .undefined => .ok false
  | .text s _ => .ok (Text.contains s value.display)
  | .list items | .series items => .ok (items.any (equal · value))
  | .map _ | .loop _ _ _ _ _ | .procedure _ | .module _ _ =>
    .ok (valueUnder? value container).isSome
  | .builtin _ => .ok false
  | _ => .error .invalidOperation

/-- The number with the other sign. The bound of whole numbers, which has none, stays itself. -/
def negate : Value → Except Fault Value
  | .decimal x => .ok (.decimal (-x))
  | .integer n =>
    if n = integerBound then .ok (.integer n)
    else if n < integerBound then ofBounded (-n)
    else .error .invalidOperation
  | _ => .error .invalidOperation

/-- An operator. Of `and` and `or` this is the result if both operands are looked at. -/
def binary (operator : BinaryOperator) (a b : Value) : Except Fault Value :=
  match operator with
  | .or => .ok (if a.isTrue then a else b)
  | .and => .ok (if a.isTrue then b else a)
  | .add => add a b
  | .subtract => arithmetic (fun m n => ofBounded (m - n)) (· - ·) a b
  | .concat => .ok (ofText (a.display ++ b.display))
  | .multiply => multiply a b
  | .divide => divide a b
  | .floorDivide =>
    arithmetic (fun m n => if n = 0 then .error .invalidOperation else ofBounded (m / n))
      floorQuotient a b
  | .modulo =>
    arithmetic (fun m n => if n = 0 then .error .invalidOperation else ofBounded (m % n))
      Decimal.remainder a b
  | .power => arithmetic integerPower Float.pow a b

/-- Whether a comparison holds. -/
def holds (comparison : Comparison) (a b : Value) : Except Fault Bool :=
  match comparison with
  | .equal => .ok (equal a b)
  | .unequal => .ok (!equal a b)
  | .less => .ok (order a b == .lt)
  | .lessEqual => .ok (order a b != .gt)
  | .greater => .ok (order a b == .gt)
  | .greaterEqual => .ok (order a b != .lt)
  | .within => contains b a
  | .outside => (contains b a).map not

/-! ## Parts of values -/

/-- The items that a loop runs over; what is missing has none. -/
def iterate (value : Value) : Except Fault (List Value) :=
  match value with
  | .undefined | .none => .ok []
  | .text s _ => .ok (s.toList.map fun c => ofText c.toString)
  | .list items | .series items => .ok items
  | value =>
    match value.entries? with
    | some entries => .ok (entries.map (·.1))
    | Option.none => .error .invalidOperation

/-- Whether it is known ahead how many items a loop over the value has. -/
def isCounted : Value → Bool
  | .text _ _ => false
  | _ => true

/-- The items of a list or a series, or the keys of a map. -/
def parts? (value : Value) : Option (List Value) :=
  value.items?.or (value.entries?.map (·.map (·.1)))

def length? : Value → Option Nat
  | .text s _ => some s.length
  | value => value.parts?.map (·.length)

/-- The place that an index names, counted from the end if it is negative. -/
def place? (length : Nat) (key : Value) : Option Nat :=
  key.whole?.bind fun n =>
    let n := if n < 0 then n + length else n
    if 0 ≤ n then some n.toNat else Option.none

/-- The part of a value under a key, if it has one. -/
def part? (key : Value) : Value → Option Value
  | .list items | .series items => (place? items.length key).bind (items[·]?)
  | .text s _ => do
    let cs := s.toList
    let c ← (place? cs.length key).bind (cs[·]?)
    return ofText c.toString
  | value => valueUnder? key value

/-- The part of a value under a key, undefined if it has none. What is undefined has no parts to
ask for. -/
def part (value key : Value) : Except Fault Value :=
  match value with
  | .undefined => .error .undefinedValue
  | value => .ok ((part? key value).getD .undefined)

/-- A named part of a value. Lists and texts have none. -/
def member (value : Value) (name : String) : Except Fault Value :=
  part value (ofText name)

/-- The part of a value at the end of a path of names and numbers with points between them. -/
def atPath (value : Value) (path : String) : Except Fault Value :=
  (Text.splitOnChar path '.').foldlM (fun value name =>
    let digits := name.toList
    if !digits.isEmpty && digits.all Char.isDigit then part value (ofNat (Json.digitsValue digits))
    else member value name) value

/-! ## Slices -/

/-- An end or the step of a slice: a whole number of 64 bits, or nothing. -/
def bound? : Value → Except Fault (Option Int)
  | .none => .ok Option.none
  | value =>
    match value.word? with
    | some n => .ok (some n)
    | Option.none => .error .invalidOperation

/-- A place counted from the end if it is negative, which stays at the start if it lies before. -/
def fromStart (length n : Int) : Int :=
  if n < 0 then max 0 (n + length) else n

/-- Every `step`-th item from the start on. -/
def everyFrom {α : Type} (step : Nat) : Nat → List α → List α
  | _, [] => []
  | 0, a :: as => a :: everyFrom step (step - 1) as
  | wait + 1, _ :: as => everyFrom step wait as

/-- The items of a slice. A negative step takes them from the start downwards to behind the stop,
where a stop at the first item is none, so that this item is taken too. -/
def sliceItems {α : Type} (items : List α) (start stop : Option Int) (step : Int) : List α :=
  let length : Int := items.length
  if 0 < step then
    let first := fromStart length (start.getD 0)
    let last := fromStart length (stop.getD length)
    everyFrom step.toNat 0 ((items.take last.toNat).drop first.toNat)
  else
    let first := fromStart length (start.getD (length - 1))
    let last := fromStart length (stop.getD 0)
    let behind := if last = 0 then 0 else last + 1
    everyFrom (-step).toNat 0 ((items.take (first + 1).toNat).drop behind.toNat).reverse

def slice (value start stop step : Value) : Except Fault Value := do
  let start ← bound? start
  let stop ← bound? stop
  let step := (← bound? step).getD 1
  if step = 0 then throw .invalidOperation
  match value with
  | .undefined | .none => return .list []
  | .text s _ => return ofText (String.ofList (sliceItems s.toList start stop step))
  | .list items | .series items => return .series (sliceItems items start stop step)
  | _ => throw .invalidOperation

end SchemaCodegen.Template.Value
