import SchemaCodegen.Failure
import SchemaCodegen.Json.Reader
import SchemaCodegen.Text.Search
import SchemaCodegen.Text.Blank

/-!
# Template tokens

A template is text with places marked by double braces, by brace and percent sign, or by brace and
number sign. `tokens` cuts it into the text between such places and the words and marks inside
them. Where the text cannot be cut any further, the last token holds the fault, so a reader of
tokens meets it only when it gets there.
-/

namespace SchemaCodegen.Template

/-- Marks inside a place. -/
inductive Mark where
  | plus | minus | times | slash | doubleSlash | percent | doubleTimes
  | dot | comma | colon | tilde | pipe | assign
  | equal | unequal | less | lessEqual | greater | greaterEqual
  | openParen | closeParen | openBracket | closeBracket | openBrace | closeBrace
deriving DecidableEq, Repr

inductive Token where
  /-- Text outside of places. -/
  | text (value : String)
  | outputStart
  | outputEnd
  | tagStart
  | tagEnd
  | name (value : String)
  | quoted (value : String)
  | integer (value : Nat)
  | decimal (significand : Nat) (exponent : Int)
  | mark (value : Mark)
  /-- The text cannot be cut from here on. -/
  | broken (fault : Fault)
deriving DecidableEq, Repr

namespace Token

/-- The two kinds of places that hold tokens. -/
inductive Place where
  | output
  | tag
deriving DecidableEq

def Place.close : Place → List Char
  | .output => ['}', '}']
  | .tag => ['%', '}']

def Place.startToken : Place → Token
  | .output => .outputStart
  | .tag => .tagStart

def Place.endToken : Place → Token
  | .output => .outputEnd
  | .tag => .tagEnd

/-! ## Text between places -/

/-- Whether a place starts here. -/
def startsPlace : List Char → Bool
  | '{' :: '{' :: _ | '{' :: '%' :: _ | '{' :: '#' :: _ => true
  | _ => false

/-- The text before the first place, and the rest. -/
def cutText : List Char → List Char × List Char
  | [] => ([], [])
  | c :: cs =>
    if startsPlace (c :: cs) then ([], c :: cs)
    else
      let (lead, rest) := cutText cs
      (c :: lead, rest)

/-- Whether the place that starts here trims the text before it. -/
def trimsBefore : List Char → Bool
  | _ :: _ :: '-' :: _ => true
  | _ => false

/-- The text without the sign that may follow the start of a place. -/
def dropSign : List Char → List Char
  | '-' :: cs | '+' :: cs => cs
  | cs => cs

def isAsciiBlank (c : Char) : Bool :=
  c = ' ' || c = '\t' || c = '\n' || c = '\x0c' || c = '\r'

def dropAsciiBlanks (cs : List Char) : List Char :=
  cs.dropWhile isAsciiBlank

/-- The text behind a comment that starts here, and whether its end trims what follows. -/
def cutComment (last : Char) : List Char → Option (Bool × List Char)
  | '#' :: '}' :: cs => some (last == '-', cs)
  | c :: cs => cutComment c cs
  | [] => none

/-- Reads a tag that holds nothing but a keyword, behind the start of the tag: whether its end
trims what follows, and the text behind it. -/
def keywordTag? (keyword : List Char) (cs : List Char) : Option (Bool × List Char) :=
  let cs := dropAsciiBlanks (dropSign cs)
  if keyword.isPrefixOf cs then
    let cs := dropAsciiBlanks (cs.drop keyword.length)
    let trims := cs.head? == some '-'
    match dropSign cs with
    | '%' :: '}' :: rest => some (trims, rest)
    | _ => none
  else none

/-- The text up to the tag that ends a raw part, whether that tag trims the text before it and
the text behind it, and the rest. -/
def cutRaw : List Char → Option (List Char × Bool × Bool × List Char)
  | [] => none
  | c :: cs =>
    let ending : Option (Bool × Bool × List Char) :=
      match c :: cs with
      | '{' :: '%' :: inner =>
        (keywordTag? "endraw".toList inner).map fun (after, rest) =>
          (inner.head? == some '-', after, rest)
      | _ => none
    match ending with
    | some (before, after, rest) => some ([], before, after, rest)
    | none => (cutRaw cs).map fun (raw, before, after, rest) => (c :: raw, before, after, rest)

/-- The text without the line end that closes a file. -/
def dropLastLineEnd (cs : List Char) : List Char :=
  match cs.reverse with
  | '\n' :: '\r' :: rest | '\n' :: rest | '\r' :: rest => rest.reverse
  | _ => cs

/-! ## Inside places -/

/-- The mark that starts here, and the text behind it. -/
def cutMark : List Char → Option (Mark × List Char)
  | '/' :: '/' :: cs => some (.doubleSlash, cs)
  | '*' :: '*' :: cs => some (.doubleTimes, cs)
  | '=' :: '=' :: cs => some (.equal, cs)
  | '!' :: '=' :: cs => some (.unequal, cs)
  | '>' :: '=' :: cs => some (.greaterEqual, cs)
  | '<' :: '=' :: cs => some (.lessEqual, cs)
  | '+' :: cs => some (.plus, cs)
  | '-' :: cs => some (.minus, cs)
  | '*' :: cs => some (.times, cs)
  | '/' :: cs => some (.slash, cs)
  | '%' :: cs => some (.percent, cs)
  | '.' :: cs => some (.dot, cs)
  | ',' :: cs => some (.comma, cs)
  | ':' :: cs => some (.colon, cs)
  | '~' :: cs => some (.tilde, cs)
  | '|' :: cs => some (.pipe, cs)
  | '=' :: cs => some (.assign, cs)
  | '<' :: cs => some (.less, cs)
  | '>' :: cs => some (.greater, cs)
  | '(' :: cs => some (.openParen, cs)
  | ')' :: cs => some (.closeParen, cs)
  | '[' :: cs => some (.openBracket, cs)
  | ']' :: cs => some (.closeBracket, cs)
  | '{' :: cs => some (.openBrace, cs)
  | '}' :: cs => some (.closeBrace, cs)
  | _ => none

/-- By how much a mark changes the number of open brackets. -/
def balance : Mark → Int
  | .openParen | .openBracket | .openBrace => 1
  | .closeParen | .closeBracket | .closeBrace => -1
  | _ => 0

def isNameStart (c : Char) : Bool :=
  c.isAlpha || c = '_'

def isNameChar (c : Char) : Bool :=
  c.isAlphanum || c = '_'

/-- The text of a quoted string up to its closing quote, escapes left as they are. -/
def cutQuoted (quote : Char) : List Char → Option (List Char × List Char)
  | [] => none
  | '\\' :: c :: cs => (cutQuoted quote cs).map fun (s, rest) => ('\\' :: c :: s, rest)
  | c :: cs =>
    if c = quote then some ([], cs)
    else (cutQuoted quote cs).map fun (s, rest) => (c :: s, rest)

/-! ## Escapes -/

/-- The number that digits write in a base; none if one is no digit of it or there is none. -/
def digitsIn? (base : Nat) (digits : List Char) : Option Nat :=
  if digits.isEmpty then none else Text.digitsValue? base digits

/-- The character of an escape with one letter. -/
def escapeLetter? : Char → Option Char
  | '"' => some '"'
  | '\\' => some '\\'
  | '/' => some '/'
  | '\'' => some '\''
  | 'b' => some '\x08'
  | 'f' => some '\x0c'
  | 'n' => some '\n'
  | 'r' => some '\r'
  | 't' => some '\t'
  | _ => none

/-- The hexadecimal number that exactly `width` characters write, the first of which may be a
plus sign; and the text behind it. -/
def unit? (width : Nat) (cs : List Char) : Option (Nat × List Char) :=
  let taken := cs.take width
  let digits := if taken.head? == some '+' then taken.drop 1 else taken
  if taken.length = width then (digitsIn? 16 digits).map (·, cs.drop width) else none

/-- The character of an escape by number, the second half of a pair included. -/
def numberEscape? (cs : List Char) : Option (Char × List Char) := do
  let (high, cs) ← unit? 4 cs
  if Json.isLowHalf high then none
  else if Json.isHighHalf high then
    match cs with
    | '\\' :: 'u' :: cs =>
      let (low, cs) ← unit? 4 cs
      if Json.isLowHalf low then
        some (Char.ofNat (0x10000 + (high - 0xD800) * 0x400 + (low - 0xDC00)), cs)
      else none
    | _ => none
  else some (Char.ofNat high, cs)

def isOctalDigit (c : Char) : Bool :=
  '0' ≤ c && c ≤ '7'

/-- The character of one to three octal digits. -/
def octalEscape? (cs : List Char) : Option (Char × List Char) := do
  let digits := (cs.take 3).takeWhile isOctalDigit
  let n ← digitsIn? 8 digits
  if n < 256 then some (Char.ofNat n, cs.drop digits.length) else none

/-- The text of an escape behind its backslash, and what follows it. A letter without a meaning
leaves the backslash where it is. -/
def escaped? : List Char → Option (List Char × List Char)
  | [] => none
  | 'u' :: cs => (numberEscape? cs).map fun (c, rest) => ([c], rest)
  | 'x' :: cs => (unit? 2 cs).map fun (n, rest) => ([Char.ofNat n], rest)
  | c :: cs =>
    if isOctalDigit c then (octalEscape? (c :: cs)).map fun (c, rest) => ([c], rest)
    else
      match escapeLetter? c with
      | some image => some ([image], cs)
      | none => some (['\\', c], cs)

/-- The text that a quoted string stands for; `fuel` bounds the length of what is left. -/
def unescape : Nat → List Char → Option (List Char)
  | 0, _ => some []
  | _, [] => some []
  | fuel + 1, '\\' :: cs => do
    let (image, rest) ← escaped? cs
    return image ++ (← unescape fuel rest)
  | fuel + 1, c :: cs => (unescape fuel cs).map (c :: ·)

/-! ## Numbers -/

/-- Where in a number its reading is. -/
inductive NumberPart where
  | radix (base : Nat)
  | whole
  | fraction
  | exponent
  | exponentDigits

/-- The part of a number behind one more character, none if it does not belong to it. -/
def NumberPart.step : NumberPart → Char → Option NumberPart
  | .whole, '.' => some .fraction
  | .whole, 'e' | .whole, 'E' | .fraction, 'e' | .fraction, 'E' => some .exponent
  | .exponent, '+' | .exponent, '-' => some .exponentDigits
  | part, c =>
    if c = '_' then some part
    else if c.isDigit then
      match part with
      | .exponent => some .exponentDigits
      | part => some part
    else
      match part with
      | .radix 16 => if (Text.hexValue? c).isSome then some part else none
      | _ => none

/-- Whether a member's name starts here, so that a point before it does not belong to a number. -/
def startsMember : List Char → Bool
  | c :: _ => isNameStart c && c != 'e' && c != 'E'
  | [] => false

/-- The characters of a number, the part that it ends in, and the rest. -/
def cutNumber (part : NumberPart) : List Char → List Char × NumberPart × List Char
  | [] => ([], part, [])
  | c :: cs =>
    match if c = '.' && startsMember cs then none else part.step c with
    | none => ([], part, c :: cs)
    | some next =>
      let (digits, last, rest) := cutNumber next cs
      (c :: digits, last, rest)

/-- A whole number of at most 128 bits. -/
def wholeToken? (base : Nat) (digits : List Char) : Option Token := do
  let n ← digitsIn? base digits
  if n < 1 <<< 128 then some (.integer n) else none

/-- A number with a point or an exponent. -/
def decimalToken? (digits : List Char) : Option Token := do
  let mantissa := digits.takeWhile fun c => c != 'e' && c != 'E'
  let whole := mantissa.takeWhile (· != '.')
  let fraction := mantissa.drop (whole.length + 1)
  let significand ← digitsIn? 10 (whole ++ fraction)
  let exponent : Int ← match digits.drop mantissa.length with
    | [] => pure 0
    | _ :: '-' :: e => (digitsIn? 10 e).map fun n => -(n : Int)
    | _ :: '+' :: e | _ :: e => (digitsIn? 10 e).map Int.ofNat
  return .decimal significand (exponent - fraction.length)

/-- The number that starts here. -/
def number (cs : List Char) : Option (Token × List Char) :=
  let (part, base, body) : NumberPart × Nat × List Char :=
    match cs with
    | '0' :: 'b' :: rest | '0' :: 'B' :: rest => (.radix 2, 2, rest)
    | '0' :: 'o' :: rest | '0' :: 'O' :: rest => (.radix 8, 8, rest)
    | '0' :: 'x' :: rest | '0' :: 'X' :: rest => (.radix 16, 16, rest)
    | cs => (.whole, 10, cs)
  let (digits, last, rest) := cutNumber part body
  if digits.getLast? == some '_' then none
  else
    let digits := digits.filter (· != '_')
    let token := match last with
      | .radix _ | .whole => wholeToken? base digits
      | _ => decimalToken? digits
    token.map (·, rest)

/-! ## Cutting a template -/

/-- The tokens of a place from here on; `opened` counts open brackets. The rest of the template
is handed to `onEnd`, with whether its start is to be trimmed. -/
def ofPlace (place : Place) (onEnd : Bool → List Char → List Token) (opened : Int) :
    Nat → List Char → List Token
  | 0, _ => [.broken .invalidTemplate]
  | fuel + 1, cs =>
    let cs := dropAsciiBlanks cs
    if opened == 0 && place.close.isPrefixOf cs then
      place.endToken :: onEnd false (cs.drop 2)
    else if opened == 0 && place.close.isPrefixOf (cs.drop 1) && dropSign cs != cs then
      place.endToken :: onEnd (cs.head? == some '-') (cs.drop 3)
    else
      match cs with
      | [] => []
      | c :: rest =>
        if c = '"' || c = '\'' then
          match cutQuoted c rest with
          | none => [.broken .invalidTemplate]
          | some (s, rest) =>
            match unescape s.length s with
            | none => [.broken .badEscape]
            | some s => .quoted (String.ofList s) :: ofPlace place onEnd opened fuel rest
        else if c.isDigit then
          match number cs with
          | none => [.broken .invalidTemplate]
          | some (token, rest) => token :: ofPlace place onEnd opened fuel rest
        else if isNameStart c then
          .name (String.ofList (cs.takeWhile isNameChar)) ::
            ofPlace place onEnd opened fuel (cs.dropWhile isNameChar)
        else
          match cutMark cs with
          | none => [.broken .invalidTemplate]
          | some (m, rest) => .mark m :: ofPlace place onEnd (opened + balance m) fuel rest

/-- Text as a token, left out if there is none. -/
def ofText (cs : List Char) : List Token :=
  if cs.isEmpty then [] else [.text (String.ofList cs)]

/-- The tokens of a template from a place outside of places on; `trim` drops the blanks here. -/
def ofTemplate : Nat → Bool → List Char → List Token
  | 0, _, _ => [.broken .invalidTemplate]
  | fuel + 1, trim, cs =>
    let cs := if trim then Text.dropBlanks cs else cs
    match cs with
    | [] => []
    | '{' :: '#' :: rest =>
      match cutComment '#' (dropSign rest) with
      | none => [.broken .invalidTemplate]
      | some (trims, rest) => ofTemplate fuel trims rest
    | '{' :: '%' :: rest =>
      match keywordTag? "raw".toList rest with
      | some (trimsStart, rest) =>
        match cutRaw rest with
        | none => [.broken .invalidTemplate]
        | some (raw, trimsEnd, trims, rest) =>
          let raw := if trimsStart then Text.dropBlanks raw else raw
          let raw := if trimsEnd then Text.dropBlanksEnd raw else raw
          ofText raw ++ ofTemplate fuel trims rest
      | none => .tagStart :: ofPlace .tag (ofTemplate fuel) 0 (rest.length + 1) (dropSign rest)
    | '{' :: '{' :: rest =>
      .outputStart :: ofPlace .output (ofTemplate fuel) 0 (rest.length + 1) (dropSign rest)
    | cs =>
      let (lead, rest) := cutText cs
      let lead := if trimsBefore rest then Text.dropBlanksEnd lead else lead
      ofText lead ++ ofTemplate fuel false rest

end Token

/-- The tokens of a template; one line end at the end of the template is left out. -/
def tokens (source : String) : List Token :=
  let cs := Token.dropLastLineEnd source.toList
  Token.ofTemplate (cs.length + 1) false cs

end SchemaCodegen.Template
