import SchemaCodegen.Json.Basic
import SchemaCodegen.Text.Digit

/-!
# Reading JSON text

`Json.read` turns a text into a value. Reading never fails as a whole: where the text stops being
JSON the value holds that fact, and the rest of the text is not looked at.
-/

namespace SchemaCodegen.Json

/-- What reading a part of a text gives: the part, and the text behind it unless reading stopped. -/
abbrev Step (α : Type) := α × Option (List Char)

def isSpace (c : Char) : Bool :=
  c = ' ' || c = '\t' || c = '\n' || c = '\r'

def skipSpace (cs : List Char) : List Char :=
  cs.dropWhile isSpace

/-- Reads the rest of a word such as `null`. -/
def readWord (value : Json) : List Char → List Char → Step Json
  | [], cs => (value, some cs)
  | _ :: _, [] => (.unread .endedInWord, none)
  | w :: ws, c :: cs => if w = c then readWord value ws cs else (.unread .malformed, none)

/-! ## Numbers -/

def digitValue (c : Char) : Nat :=
  c.toNat - '0'.toNat

/-- The number written by decimal digits. -/
def digitsValue (digits : List Char) : Nat :=
  digits.foldl (fun n c => 10 * n + digitValue c) 0

/-- The number that `n` and as many of the digits as fit into 64 bits write together, and the
digits that are left. -/
def takeFitting (n : Nat) : List Char → Nat × List Char
  | [] => (n, [])
  | c :: cs =>
    let m := 10 * n + digitValue c
    if m < 1 <<< 64 then takeFitting m cs else (n, c :: cs)

/-- A number from its sign, digits and exponent; none if it is too large for a double. Digits that
do not fit into the significand count as zeros. -/
def decimalValue (negative : Bool) (whole fraction : List Char) (exponent : Int) : Json :=
  let (n, rest) := takeFitting 0 whole
  let (significand, dropped) := takeFitting n fraction
  let places : Int := (fraction.length - dropped.length : Nat)
  let number := Number.decimal negative significand (exponent + rest.length - places)
  if number.toFloat?.isSome then .number number else .flawed none

def integerValue (negative : Bool) (digits : List Char) : Json :=
  let n := digitsValue digits
  if negative then
    if 0 < n && n ≤ 1 <<< 63 then .number (.integer (-(n : Int))) else decimalValue true digits [] 0
  else if n < 1 <<< 64 then .number (.integer n)
  else decimalValue false digits [] 0

/-- At least one digit, and what follows the digits. -/
def readDigits (cs : List Char) : Except Fault (List Char × List Char) :=
  match cs with
  | [] => .error .endedInWord
  | c :: _ =>
    if c.isDigit then .ok (cs.takeWhile Char.isDigit, cs.dropWhile Char.isDigit)
    else .error .malformed

/-- The exponent of a number behind its `e`. -/
def readExponent (cs : List Char) : Except Fault (Int × List Char) :=
  match cs with
  | '+' :: cs => (readDigits cs).map fun (ds, cs) => (digitsValue ds, cs)
  | '-' :: cs => (readDigits cs).map fun (ds, cs) => (-(digitsValue ds : Int), cs)
  | cs => (readDigits cs).map fun (ds, cs) => (digitsValue ds, cs)

/-- The fraction of a number, empty if there is none. -/
def readFraction (cs : List Char) : Except Fault (Option (List Char) × List Char) :=
  match cs with
  | '.' :: cs => (readDigits cs).map fun (ds, cs) => (some ds, cs)
  | cs => .ok (none, cs)

/-- The integer part: digits that do not start with a zero, or a zero alone. -/
def readWhole (cs : List Char) : Except Fault (List Char × List Char) := do
  let (whole, rest) ← readDigits cs
  match whole with
  | '0' :: _ :: _ => .error .malformed
  | _ => .ok (whole, rest)

def readUnsigned (negative : Bool) (cs : List Char) : Except Fault (Json × List Char) := do
  let (whole, cs) ← readWhole cs
  let (fraction, cs) ← readFraction cs
  match cs with
  | 'e' :: cs | 'E' :: cs =>
    let (exponent, cs) ← readExponent cs
    return (decimalValue negative whole (fraction.getD []) exponent, cs)
  | cs =>
    match fraction with
    | some digits => return (decimalValue negative whole digits 0, cs)
    | none => return (integerValue negative whole, cs)

def readNumber (cs : List Char) : Step Json :=
  let read := match cs with
    | '-' :: cs => readUnsigned true cs
    | cs => readUnsigned false cs
  match read with
  | .ok (value, rest) => (value, some rest)
  | .error fault => (.unread fault, none)

/-! ## Strings -/

/-- The number of bytes of the text in UTF-8, as far as four. -/
def bytesUpToFour (cs : List Char) : Nat :=
  (cs.take 4).foldl (fun n c => n + c.utf8Size) 0

/-- Four hexadecimal digits. -/
def readUnit (cs : List Char) : Except Fault (Nat × List Char) :=
  if bytesUpToFour cs < 4 then .error .ended
  else
    match (cs.take 4).mapM Text.hexValue? with
    | some [a, b, c, d] => .ok (((a * 16 + b) * 16 + c) * 16 + d, cs.drop 4)
    | _ => .error .malformed

def isHighHalf (n : Nat) : Bool :=
  0xD800 ≤ n && n ≤ 0xDBFF

def isLowHalf (n : Nat) : Bool :=
  0xDC00 ≤ n && n ≤ 0xDFFF

/-- What an escape stands for. -/
inductive Escaped where
  | char (c : Char)
  /-- A half of a surrogate pair without its other half. -/
  | half

/-- Reads an escape behind its backslash. A half pair is taken alone, so that a reader who skips
the string goes on behind it. -/
def readEscape : List Char → Except Fault (Escaped × List Char)
  | [] => .error .ended
  | '"' :: cs => .ok (.char '"', cs)
  | '\\' :: cs => .ok (.char '\\', cs)
  | '/' :: cs => .ok (.char '/', cs)
  | 'b' :: cs => .ok (.char '\x08', cs)
  | 'f' :: cs => .ok (.char '\x0c', cs)
  | 'n' :: cs => .ok (.char '\n', cs)
  | 'r' :: cs => .ok (.char '\r', cs)
  | 't' :: cs => .ok (.char '\t', cs)
  | 'u' :: cs => do
    let (n, cs) ← readUnit cs
    if isHighHalf n then
      match cs with
      | [] => .error .ended
      | ['\\'] => .error .ended
      | '\\' :: 'u' :: cs' =>
        match readUnit cs' with
        | .error fault => .error fault
        | .ok (m, cs'') =>
          if isLowHalf m then
            .ok (.char (Char.ofNat ((n - 0xD800) * 0x400 + (m - 0xDC00) + 0x10000)), cs'')
          else .ok (.half, cs)
      | cs => .ok (.half, cs)
    else if isLowHalf n then .ok (.half, cs)
    else .ok (.char (Char.ofNat n), cs)
  | _ => .error .malformed

/-- Reads a string behind its opening quote. `content` is the text so far, reversed, and `whole`
tells that no half pair was met. -/
def readString (fuel : Nat) (content : List Char) (whole : Bool) (cs : List Char) :
    Step (Except Json String) :=
  let stop (fault : Fault) : Step (Except Json String) :=
    (.error (if whole then .unread fault else .flawed (some fault)), none)
  match fuel, cs with
  | 0, _ => stop .malformed
  | _, [] => stop .ended
  | _ + 1, '"' :: rest =>
    if whole then (.ok (String.ofList content.reverse), some rest)
    else (.error (.flawed none), some rest)
  | fuel + 1, '\\' :: rest =>
    match readEscape rest with
    | .error fault => stop fault
    | .ok (.char c, rest) => readString fuel (c :: content) whole rest
    | .ok (.half, rest) => readString fuel content false rest
  | fuel + 1, c :: rest =>
    if c.toNat < 0x20 then stop .malformed else readString fuel (c :: content) whole rest

/-! ## Values -/

mutual

def readValue : Nat → List Char → Step Json
  | 0, _ => (.unread .malformed, none)
  | fuel + 1, cs =>
    match skipSpace cs with
    | [] => (.unread .ended, none)
    | 'n' :: cs => readWord .null ['u', 'l', 'l'] cs
    | 't' :: cs => readWord (.bool true) ['r', 'u', 'e'] cs
    | 'f' :: cs => readWord (.bool false) ['a', 'l', 's', 'e'] cs
    | '"' :: cs =>
      match readString (cs.length + 1) [] true cs with
      | (.ok s, rest) => (.text s, rest)
      | (.error value, rest) => (value, rest)
    | '[' :: cs =>
      let (items, rest) := readItems fuel true cs
      (.array items, rest)
    | '{' :: cs =>
      let (members, rest) := readMembers fuel true cs
      (.object members, rest)
    | c :: cs =>
      if c = '-' || c.isDigit then readNumber (c :: cs) else (.unread .malformed, none)

/-- Reads the items of an array behind its bracket or behind an item. -/
def readItems : Nat → Bool → List Char → Step (List Json)
  | 0, _, _ => ([.unread .malformed], none)
  | fuel + 1, isFirst, cs =>
    match skipSpace cs with
    | [] => ([.unread .ended], none)
    | ']' :: rest => ([], some rest)
    | c :: rest =>
      if isFirst then readItem fuel (c :: rest)
      else if c = ',' then
        match skipSpace rest with
        | [] => ([.unread .endedAfterComma], none)
        | ']' :: _ => ([.unread .malformed], none)
        | rest => readItem fuel rest
      else ([.unread .malformed], none)

def readItem : Nat → List Char → Step (List Json)
  | 0, _ => ([.unread .malformed], none)
  | fuel + 1, cs =>
    match readValue fuel cs with
    | (item, none) => ([item], none)
    | (item, some rest) =>
      let (items, rest) := readItems fuel false rest
      (item :: items, rest)

/-- Reads the members of an object behind its brace or behind a member. -/
def readMembers : Nat → Bool → List Char → Step (List (String × Json))
  | 0, _, _ => ([("", .unread .malformed)], none)
  | fuel + 1, isFirst, cs =>
    match skipSpace cs with
    | [] => ([("", .unread .ended)], none)
    | '}' :: rest => ([], some rest)
    | c :: rest =>
      if isFirst then readMember fuel (c :: rest)
      else if c = ',' then
        match skipSpace rest with
        | [] => ([("", .unread .endedAfterComma)], none)
        | rest => readMember fuel rest
      else ([("", .unread .malformed)], none)

def readMember : Nat → List Char → Step (List (String × Json))
  | 0, _ => ([("", .unread .malformed)], none)
  | fuel + 1, '"' :: cs =>
    match readString (cs.length + 1) [] true cs with
    | (.error (.unread fault), _) => ([("", .unread fault)], none)
    | (.error _, _) => ([("", .unread .malformed)], none)
    | (.ok _, none) => ([("", .unread .malformed)], none)
    | (.ok name, some rest) =>
      match skipSpace rest with
      | [] => ([(name, .unread .ended)], none)
      | ':' :: rest =>
        match readValue fuel rest with
        | (value, none) => ([(name, value)], none)
        | (value, some rest) =>
          let (members, rest) := readMembers fuel false rest
          ((name, value) :: members, rest)
      | _ => ([(name, .unread .malformed)], none)
  | _ + 1, _ => ([("", .unread .malformed)], none)

end

/-- A text as read: its value, and whether something else follows the value. -/
structure Reading where
  value : Json
  /-- The value is complete and other characters than space follow. -/
  hasTail : Bool
deriving Repr

def readChars (cs : List Char) : Reading :=
  match readValue (3 * cs.length + 3) cs with
  | (value, none) => ⟨value, false⟩
  | (value, some rest) => ⟨value, !(skipSpace rest).isEmpty⟩

def read (s : String) : Reading :=
  readChars s.toList

/-- The value of a text that is JSON throughout. -/
def parse? (s : String) : Option Json :=
  let reading := read s
  if reading.hasTail || reading.value.skipFault.isSome then none else some reading.value

end SchemaCodegen.Json
