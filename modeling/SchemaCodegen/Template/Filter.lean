import SchemaCodegen.Template.Check

/-!
# Filters

What can stand behind a bar in an expression: functions from a value and arguments to a value.
-/

namespace SchemaCodegen.Template

/-- A filter: what it makes of a value, given its arguments, and whether text is escaped where it
is applied. -/
abbrev Filter := Bool → Value → Arguments → Except Fault Value

namespace Filter

/-! ## Arguments -/

/-- An argument that stands for itself, unless it is missing. -/
def present? (values : List Value) (place : Nat) : Option Value :=
  values[place]?.filter Value.isPresent

/-- An argument as text, whatever it is. -/
def textAt (values : List Value) (place : Nat) : Except Fault String :=
  match values[place]? with
  | some value => .ok value.display
  | none => .error .missingArgument

/-- Text, and nothing that would have to be turned into it. -/
def properText : Value → Except Fault String
  | .text s _ => .ok s
  | _ => .error .invalidOperation

def properBool : Value → Except Fault Bool
  | .bool b => .ok b
  | _ => .error .invalidOperation

def properInteger (value : Value) : Except Fault Int :=
  match value.word? with
  | some n => .ok n
  | none => .error .invalidOperation

/-- A named argument that may be missing. -/
def named? {α : Type} (arguments : Arguments) (name : String) (read : Value → Except Fault α) :
    Except Fault (Option α) :=
  match (arguments.named.reverse.lookup name).filter Value.isPresent with
  | some value => (read value).map some
  | none => .ok none

/-- Refuses arguments with other names than these. -/
def onlyNamed (arguments : Arguments) (names : List String) : Except Fault Unit :=
  if arguments.named.all fun (name, _) => names.contains name then .ok ()
  else .error .tooManyArguments

/-- A filter of text without arguments. -/
def onText (f : String → String) : Filter := fun _ value arguments => do
  let _ ← arguments.upTo 0
  return .ofText (f value.display)

/-- A filter of text without arguments, which leaves safe text safe. -/
def onSafeText (f : String → String) : Filter := fun _ value arguments => do
  let _ ← arguments.upTo 0
  return .text (f value.display) value.isSafe

/-- A filter without arguments. -/
def plain (f : Value → Except Fault Value) : Filter := fun _ value arguments => do
  let _ ← arguments.upTo 0
  f value

/-! ## Text -/

def isAsciiPunctuation (c : Char) : Bool :=
  let n := c.toNat
  (0x21 ≤ n && n ≤ 0x2F) || (0x3A ≤ n && n ≤ 0x40) || (0x5B ≤ n && n ≤ 0x60) ||
    (0x7B ≤ n && n ≤ 0x7E)

/-- Every word with a capital first letter; words end at blanks and ASCII punctuation. -/
def titleChars : Bool → List Char → List Char
  | _, [] => []
  | starts, c :: cs =>
    if isAsciiPunctuation c || Text.isBlank c then c :: titleChars true cs
    else (if starts then Text.upperChar c else Text.lowerChar c) ++ titleChars false cs

def title (s : String) : String :=
  String.ofList (titleChars true s.toList)

def capitalize (s : String) : String :=
  match s.toList with
  | [] => ""
  | c :: cs => String.ofList (Text.upperChar c) ++ Text.lower (String.ofList cs)

/-- Text without some characters at its ends. -/
def trimOf (dropped : Char → Bool) (s : String) : String :=
  String.ofList ((s.toList.dropWhile dropped).reverse.dropWhile dropped).reverse

def trim : Filter := fun _ value arguments => do
  let trimmed ← match present? (← arguments.upTo 1) 0 with
    | none => pure (Text.trim value.display)
    | some chars => pure (trimOf (chars.display.toList.contains ·) value.display)
  return .text trimmed value.isSafe

/-- Where text is escaped and some of it is safe, the rest is escaped before anything is replaced,
except for what is looked for. -/
def replace : Filter := fun escapes value arguments => do
  let values ← arguments.upTo 2
  let old ← textAt values 0
  let new ← textAt values 1
  if escapes && (value :: values).any Value.isSafe then
    let new := ((values[1]?).map Value.escaped).getD new
    return .text (Text.replace value.escaped old new) true
  else return .ofText (Text.replace value.display old new)

/-- The parts of a text around a separator; around an empty one each character is a part. -/
def splitText (s separator : String) (limit : Nat) : List String :=
  if separator.isEmpty then
    let parts := "" :: s.toList.map Char.toString ++ [""]
    if parts.length ≤ limit + 1 then parts
    else parts.take limit ++ [String.join (parts.drop limit)]
  else (Text.splitFrom separator.toList limit [] 0 s.toList).map String.ofList

/-- The words of a text; what is left behind the given number of words is the last part, as are
blanks with no word behind them. `fuel` bounds the length of the text. -/
def splitBlanks : Nat → Nat → List Char → List (List Char)
  | 0, _, _ => []
  | _, _, [] => []
  | fuel + 1, limit, c :: cs =>
    let rest := Text.dropBlanks (c :: cs)
    if rest.isEmpty then [c :: cs]
    else
      match limit with
      | 0 => [rest]
      | limit + 1 =>
        let word := rest.takeWhile (!Text.isBlank ·)
        word :: splitBlanks fuel limit (rest.drop word.length)

def split : Filter := fun _ value arguments => do
  let s ← properText value
  let values ← arguments.upTo 2
  let limit ← (present? values 1).mapM properInteger
  let limit := limit.bind fun n => if 0 ≤ n then some n.toNat else none
  let part (s : String) : Value := .text s value.isSafe
  match present? values 0 with
  | some separator =>
    let parts := splitText s (← properText separator) (limit.getD (s.length + 2))
    return .list (parts.map part)
  | none =>
    let parts : List (List Char) := match limit with
      | none => (Text.splitWhere Text.isBlank s.toList).filter (!·.isEmpty)
      | some n => splitBlanks (s.length + 1) n s.toList
    return .list (parts.map fun cs => part (String.ofList cs))

/-- Safe text is left alone. -/
def escape : Value → Except Fault Value
  | .text s true => .ok (.text s true)
  | value => .ok (.text value.escaped true)

def safe (value : Value) : Except Fault Value :=
  .ok (.text value.display true)

def string : Value → Except Fault Value
  | .text s isSafe => .ok (.text s isSafe)
  | value => .ok (.ofText value.display)

/-! ## Lists -/

/-- The texts of items with a separator between them. Where text is escaped and some of it is
safe, the rest is escaped first. -/
def join : Filter := fun escapes value arguments => do
  let values ← arguments.upTo 1
  let separator := (present? values 0).getD (.ofText "")
  let items ← value.iterate
  if escapes && (separator :: items).any Value.isSafe then
    return .text (String.intercalate separator.escaped (items.map Value.escaped)) true
  else return .ofText (String.intercalate separator.display (items.map Value.display))

def first (value : Value) : Except Fault Value :=
  match value with
  | .text s _ => .ok ((s.toList.head?.map fun c => Value.ofText c.toString).getD .undefined)
  | value =>
    match value.parts? with
    | some parts => .ok (parts.head?.getD .undefined)
    | none => .error .invalidOperation

/-- The last item. The last character of safe text is safe. -/
def last (value : Value) : Except Fault Value :=
  match value with
  | .text s safe => .ok ((s.toList.getLast?.map fun c => .text c.toString safe).getD .undefined)
  | value =>
    match value.items? with
    | some items => .ok (items.getLast?.getD .undefined)
    | none => .error .invalidOperation

def length (value : Value) : Except Fault Value :=
  match value.length? with
  | some n => .ok (.ofNat n)
  | none => .error .invalidOperation

/-- The items from the last to the first. The keys of a map have no such order and stay as they
are. -/
def reverse (value : Value) : Except Fault Value :=
  match value with
  | .undefined | .none => .ok value
  | .text s _ => .ok (.ofText (String.ofList s.toList.reverse))
  | .list items | .series items => .ok (.series items.reverse)
  | value =>
    match value.entries? with
    | some entries => .ok (.series (entries.map (·.1)))
    | none => .error .invalidOperation

/-- The order for sorting, in which the case of ASCII letters counts only if it is asked for. -/
def sortOrder (caseSensitive : Bool) (a b : Value) : Ordering :=
  match a, b with
  | .text s _, .text t _ =>
    if caseSensitive then compare s t else compare (Text.asciiLower s) (Text.asciiLower t)
  | a, b => Value.order a b

/-- The order for sorting by parts of values, the first path counting most. Where a value has no
such part, the path says nothing. -/
def pathOrder (caseSensitive : Bool) (paths : List String) (a b : Value) : Ordering :=
  paths.foldl (fun order path =>
    order.then (match a.atPath path, b.atPath path with
      | .ok a, .ok b => sortOrder caseSensitive a b
      | _, _ => .eq)) .eq

def sort : Filter := fun _ value arguments => do
  unless arguments.positional.isEmpty do throw .tooManyArguments
  let items ← value.iterate
  let caseSensitive := ((← named? arguments "case_sensitive" properBool)).getD false
  let paths ← named? arguments "attribute" properText
  let descending := (← named? arguments "reverse" properBool).getD false
  onlyNamed arguments ["case_sensitive", "attribute", "reverse"]
  let compareItems (a b : Value) : Ordering := match paths with
    | none => sortOrder caseSensitive a b
    | some paths => pathOrder caseSensitive ((Text.splitOnChar paths ',').map Text.trim) a b
  return .list (items.mergeSort fun a b =>
    if descending then compareItems a b != .lt else compareItems a b != .gt)

/-- The first of the smallest items. -/
def minimum (value : Value) : Except Fault Value := do
  match ← value.iterate with
  | [] => return .undefined
  | item :: items =>
    return items.foldl (fun best v => if Value.order v best == .lt then v else best) item

/-- The last of the largest items. -/
def maximum (value : Value) : Except Fault Value := do
  match ← value.iterate with
  | [] => return .undefined
  | item :: items =>
    return items.foldl (fun best v => if Value.order v best == .lt then best else v) item

def sum (value : Value) : Except Fault Value := do
  (← value.iterate).foldlM (fun total v =>
    if v.isUndefined then .ok total
    else if v.isNumber then Value.add total v
    else .error .invalidOperation) (.integer 0)

/-- The entries of a map as pairs. -/
def items (value : Value) : Except Fault Value :=
  match value.entries? with
  | some entries => .ok (.series (entries.map fun (k, v) => .list [k, v]))
  | none => .error .invalidOperation

def list (value : Value) : Except Fault Value := do
  return .list (← value.iterate)

/-- The items that pass a test, or that fail it if `inverted`; without a name the items that are
true pass. `path` says which part of an item is tested. -/
def select (inverted : Bool) (path : Option String) (value : Value) (test : List Value) :
    Except Fault Value := do
  let check : Option Check ← match test with
    | [] => pure none
    | name :: _ =>
      match Check.find? name.display with
      | some check => pure (some check)
      | none => throw .unknownTest
  let passes (item : Value) : Except Fault Bool := do
    let tested ← match path with
      | some path => item.atPath path
      | none => pure item
    let passed ← match check with
      | some check => check tested test.tail
      | none => pure tested.isTrue
    return passed != inverted
  return .list (← (← value.iterate).filterM passes)

def selectItems (inverted : Bool) : Filter := fun _ value arguments => do
  select inverted none value (← arguments.upTo (arguments.positional.length + 1))

def selectParts (inverted : Bool) : Filter := fun _ value arguments => do
  match ← arguments.upTo (arguments.positional.length + 1) with
  | [] => throw .missingArgument
  | path :: test => select inverted (some path.display) value test

/-- A part of each item, or a fallback for items without it. -/
def mapParts (key fallback value : Value) : Except Fault Value := do
  let parts ← (← value.iterate).mapM fun item =>
    let part := match key with
      | .text path _ => item.atPath path
      | key => item.part key
    match part with
    | .ok .undefined => .ok fallback
    | .ok v => .ok v
    | .error fault => if fallback.isUndefined then .error fault else .ok fallback
  return .list parts

/-! ## Numbers -/

def absolute : Value → Except Fault Value
  | .integer n =>
    if n = -Value.integerBound then .error .invalidOperation else .ok (.integer n.natAbs)
  | .decimal x => .ok (.decimal x.abs)
  | _ => .error .invalidOperation

/-- A decimal number in text: digits with an optional sign, point and exponent, or a word. -/
def parseDecimal? (s : String) : Option Float :=
  let (negative, cs) : Bool × List Char := match s.toList with
    | '-' :: cs => (true, cs)
    | '+' :: cs => (false, cs)
    | cs => (false, cs)
  let signed (x : Float) : Float := if negative then -x else x
  let word := Text.asciiLower (String.ofList cs)
  if word == "inf" || word == "infinity" then some (signed (1.0 / 0.0))
  else if word == "nan" then some (0.0 / 0.0)
  else
    let mantissa := cs.takeWhile fun c => c != 'e' && c != 'E'
    let whole := mantissa.takeWhile (· != '.')
    let fraction := mantissa.drop (whole.length + 1)
    let power := cs.drop (mantissa.length + 1)
    let (powerNegative, digits) : Bool × List Char := match power with
      | '-' :: ds => (true, ds)
      | '+' :: ds => (false, ds)
      | ds => (false, ds)
    let hasPower := mantissa.length < cs.length
    if (whole ++ fraction).isEmpty || !(whole ++ fraction).all Char.isDigit
        || (hasPower && digits.isEmpty) || !digits.all Char.isDigit then none
    else
      let size : Int := min 100000 (Json.digitsValue digits : Nat)
      let exponent := (if powerNegative then -size else size) - fraction.length
      let x := Float.ofScientific (Json.digitsValue (whole ++ fraction)) (exponent < 0)
        exponent.natAbs
      some (signed x)

/-- A whole number in text. -/
def parseInteger? (s : String) : Option Int :=
  let (negative, digits) : Bool × List Char := match s.toList with
    | '-' :: ds => (true, ds)
    | '+' :: ds => (false, ds)
    | ds => (false, ds)
  if digits.isEmpty || !digits.all Char.isDigit then none
  else
    let n : Int := Json.digitsValue digits
    let value := if negative then -n else n
    if -Value.integerBound ≤ value && value < Value.integerBound then some value else none

/-- A double without its fraction, within the bounds of whole numbers. -/
def truncated (x : Float) : Value :=
  if x.isInf then .integer (if x < 0.0 then -Value.integerBound else Value.integerBound - 1)
  else .integer (max (-Value.integerBound) (min (Value.integerBound - 1) (Decimal.toInt x)))

def int : Value → Except Fault Value
  | .undefined | .none => .ok (.integer 0)
  | .bool b => .ok (.integer (if b then 1 else 0))
  | .integer n => .ok (.integer n)
  | .decimal x => .ok (truncated x)
  | .text s _ =>
    match parseInteger? s, parseDecimal? s with
    | some n, _ => .ok (.integer n)
    | none, some x => .ok (truncated x)
    | none, none => .error .invalidOperation
  | _ => .error .invalidOperation

def float : Value → Except Fault Value
  | .undefined | .none => .ok (.decimal 0.0)
  | .text s _ =>
    match parseDecimal? s with
    | some x => .ok (.decimal x)
    | none => .error .invalidOperation
  | value =>
    match value.decimal? true with
    | some x => .ok (.decimal x)
    | none => .error .invalidOperation

/-! ## By name -/

/-- Arguments by position, behind which a map holds those by name. -/
def withNamed (limit : Nat) (arguments : Arguments) : Except Fault (List Value) :=
  let named := Value.mapOf (arguments.named.map fun (k, v) => (.ofText k, v))
  let values := arguments.positional ++ if arguments.named.isEmpty then [] else [named]
  if limit < values.length then .error .tooManyArguments else .ok values

/-- A value, or another one where it is undefined, or where it is not true if the second argument
is true. -/
def default : Filter := fun _ value arguments => do
  let values ← withNamed 2 arguments
  let lax := (values[1]?).any Value.isTrue
  if value.isUndefined || (lax && !value.isTrue) then return (values[0]?).getD (.ofText "")
  else return value

/-- The filters that do not apply other filters. -/
def simple? : String → Option Filter
  | "upper" => some (onSafeText Text.upper)
  | "lower" => some (onSafeText Text.lower)
  | "title" => some (onText title)
  | "capitalize" => some (onSafeText capitalize)
  | "trim" => some trim
  | "replace" => some replace
  | "split" => some split
  | "escape" | "e" => some (plain escape)
  | "safe" => some (plain safe)
  | "string" => some (plain string)
  | "join" => some join
  | "first" => some (plain first)
  | "last" => some (plain last)
  | "length" | "count" => some (plain length)
  | "reverse" => some (plain reverse)
  | "sort" => some sort
  | "min" => some (plain minimum)
  | "max" => some (plain maximum)
  | "sum" => some (plain sum)
  | "items" => some (plain items)
  | "list" => some (plain list)
  | "select" => some (selectItems false)
  | "reject" => some (selectItems true)
  | "selectattr" => some (selectParts false)
  | "rejectattr" => some (selectParts true)
  | "abs" => some (plain absolute)
  | "int" => some (plain int)
  | "float" => some (plain float)
  | "default" | "d" => some default
  | _ => none

/-- Applies `filter` by the name in the first argument to every item, with the other arguments;
or takes the part of every item that a named argument tells. -/
def map (filter : String → Filter) : Filter := fun escapes value arguments => do
  match ← named? arguments "attribute" pure with
  | some key =>
    unless arguments.positional.isEmpty do throw .tooManyArguments
    let fallback := (arguments.named.reverse.lookup "default").getD .undefined
    onlyNamed arguments ["attribute", "default"]
    mapParts key fallback value
  | none =>
    match arguments.positional with
    | [] => throw .invalidOperation
    | name :: rest => do
      let name ← properText name
      if name != "map" && (simple? name).isNone then throw .unknownFilter
      let images ← (← value.iterate).mapM fun item => filter name escapes item ⟨rest, []⟩
      return .list images

/-- Applies a filter by its name; filters that apply others may nest to the given depth. -/
def applyNested : Nat → String → Filter
  | 0, _ => fun _ _ _ => .error .unknownFilter
  | depth + 1, name => fun escapes value arguments =>
    if name = "map" then map (applyNested depth) escapes value arguments
    else
      match simple? name with
      | some filter => filter escapes value arguments
      | none => .error .unknownFilter

/-- Applies a filter by its name. Each filter that is applied by another is named by one of its
arguments, so their number bounds the nesting. -/
def apply (name : String) : Filter := fun escapes value arguments =>
  applyNested (arguments.positional.length + 1) name escapes value arguments

/-- Every name that the test for filters knows is one of a filter. -/
theorem simple?_isSome_of_mem {name : String} (h : name ∈ Check.filterNames) :
    name = "map" ∨ (simple? name).isSome := by
  have all : ∀ n ∈ Check.filterNames, n = "map" ∨ (simple? n).isSome := by decide
  exact all name h

end Filter

end SchemaCodegen.Template
