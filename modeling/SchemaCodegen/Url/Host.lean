import SchemaCodegen.Json.Reader
import SchemaCodegen.Text.Search
import SchemaCodegen.Url.Label

/-!
# Hosts of URLs

A host is a name or an address. Schemes that know how to find hosts have domains, which are
written in lower-case ASCII, and IPv4 addresses; other schemes have opaque names, of which only
controls and characters beyond ASCII are escaped. Both have IPv6 addresses in square brackets.
-/

namespace SchemaCodegen.Url

/-- A byte as a percent escape. -/
def percentEscape (b : UInt8) : List Char :=
  ['%', Char.toUpper (Text.hexDigit (b.toNat / 16)), Char.toUpper (Text.hexDigit (b.toNat % 16))]

/-- Controls and the delete character. -/
def isControl (c : Char) : Bool :=
  c.toNat < 0x20 || c.toNat = 0x7F

/-- Text with the characters of a set, and those beyond ASCII, as percent escapes. -/
def percentEncode (isEscaped : Char → Bool) (cs : List Char) : List Char :=
  cs.flatMap fun c =>
    if Text.isAscii c && !isEscaped c then [c]
    else (String.ofList [c]).toUTF8.toList.flatMap percentEscape

/-- The bytes of text whose percent escapes stand for bytes. -/
def percentDecodeBytes : List Char → List UInt8
  | '%' :: a :: b :: cs =>
    match Text.hexValue? a, Text.hexValue? b with
    | some x, some y => UInt8.ofNat (16 * x + y) :: percentDecodeBytes cs
    | _, _ => '%'.toNat.toUInt8 :: percentDecodeBytes (a :: b :: cs)
  | c :: cs => (String.ofList [c]).toUTF8.toList ++ percentDecodeBytes cs
  | [] => []

/-- The text that percent escapes stand for, if it is UTF-8. -/
def percentDecode? (cs : List Char) : Option String :=
  String.fromUTF8? ⟨(percentDecodeBytes cs).toArray⟩

/-! ## IPv6 addresses -/

/-- One to four hexadecimal digits. -/
def ipv6Piece? (cs : List Char) : Option Nat :=
  if cs.isEmpty || 4 < cs.length then none
  else Text.digitsValue? 16 cs

/-- A decimal number below 256 without a leading zero. -/
def octet? (cs : List Char) : Option Nat :=
  if cs.isEmpty || 3 < cs.length || !cs.all Char.isDigit || (1 < cs.length && cs.head? == some '0')
  then none
  else
    let n := Json.digitsValue cs
    if n < 256 then some n else none

/-- Four numbers with points between them, as two pieces of an address. -/
def dottedPieces? (cs : List Char) : Option (List Nat) := do
  match ← (Text.splitWhere (· == '.') cs).mapM octet? with
  | [a, b, c, d] => some [256 * a + b, 256 * c + d]
  | _ => none

/-- Pieces with colons between them; the last two may be written as four numbers. -/
def ipv6Pieces? (cs : List Char) : Option (List Nat) :=
  if cs.isEmpty then some []
  else
    let parts := Text.splitWhere (· == ':') cs
    let isDotted := (parts.getLast?.getD []).contains '.'
    if isDotted then do
      let before ← parts.dropLast.mapM ipv6Piece?
      return before ++ (← dottedPieces? (parts.getLast?.getD []))
    else parts.mapM ipv6Piece?

/-- The eight pieces of an address. Two colons stand for at least one piece that is zero. -/
def ipv6? (cs : List Char) : Option (List Nat) := do
  match Text.cutChars [':', ':'] cs with
  | none =>
    let pieces ← ipv6Pieces? cs
    if pieces.length = 8 then some pieces else none
  | some (before, after) =>
    if before.contains '.' then none
    else
      let first ← ipv6Pieces? before
      let last ← ipv6Pieces? after
      let count := first.length + last.length
      if 7 < count then none else some (first ++ List.replicate (8 - count) 0 ++ last)

/-- The length of the run of zeros at the start. -/
def zeroRun (pieces : List Nat) : Nat :=
  (pieces.takeWhile (· == 0)).length

/-- The place and length of the first longest run of zeros. -/
def longestZeroRun (pieces : List Nat) : Nat × Nat :=
  (List.range pieces.length).foldl (fun best i =>
    let run := zeroRun (pieces.drop i)
    if best.2 < run then (i, run) else best) (0, 0)

def pieceText (n : Nat) : String :=
  String.ofList (Nat.toDigits 16 n)

/-- An address in brackets, its longest run of at least two zeros written as two colons. -/
def ipv6Text (pieces : List Nat) : String :=
  let (place, run) := longestZeroRun pieces
  let joined (ns : List Nat) : String := String.intercalate ":" (ns.map pieceText)
  if run < 2 then "[" ++ joined pieces ++ "]"
  else "[" ++ joined (pieces.take place) ++ "::" ++ joined (pieces.drop (place + run)) ++ "]"

/-! ## IPv4 addresses -/

/-- A number in decimal, octal or hexadecimal notation; no digits behind `0x` are zero. -/
def ipv4Number? (cs : List Char) : Option Nat :=
  let (base, digits) : Nat × List Char := match cs with
    | '0' :: 'x' :: ds | '0' :: 'X' :: ds => (16, ds)
    | '0' :: d :: ds => (8, d :: ds)
    | ds => (10, ds)
  Text.digitsValue? base digits

/-- The parts of a host name, without an empty one behind a point at the end. -/
def labels (cs : List Char) : List (List Char) :=
  let parts := Text.splitWhere (· == '.') cs
  if 1 < parts.length && parts.getLast? == some [] then parts.dropLast else parts

/-- Whether a host name has to be an address: its last part is a number. -/
def endsInNumber (cs : List Char) : Bool :=
  match (labels cs).getLast? with
  | none => false
  | some last =>
    !last.isEmpty && (last.all Char.isDigit ||
      (match last with
       | '0' :: 'x' :: _ | '0' :: 'X' :: _ => (ipv4Number? last).isSome
       | _ => false))

/-- An address of one to four numbers, the last of which fills the places that are left. -/
def ipv4? (cs : List Char) : Option Nat := do
  let parts := labels cs
  if 4 < parts.length || parts.any List.isEmpty then none
  else
    let numbers ← parts.mapM ipv4Number?
    let last ← numbers.getLast?
    let before := numbers.dropLast
    if before.any (255 < ·) || 1 <<< (8 * (5 - numbers.length)) ≤ last then none
    else some (before.zipIdx.foldl (fun n (p, i) => n + p <<< (8 * (3 - i))) last)

def ipv4Text (n : Nat) : String :=
  String.intercalate "." ((List.range 4).map fun i => toString (n >>> (8 * (3 - i)) % 256))

/-! ## Domains -/

/-- Characters that no domain can hold. -/
def isForbiddenInDomain (c : Char) : Bool :=
  isControl c || " #/:<>?@[\\]^|%".toList.contains c

/-- A domain in lower-case ASCII. If a label of it is written from right to left, all of them keep
to rules of order. -/
def domain? (s : String) : Option (List Char) := do
  let labels ← (Text.splitWhere (· == '.') (canonical s.toList)).mapM Label.ofChars?
  let written := List.intercalate ['.'] (labels.map Label.written)
  if !labels.all Label.isValid || (labels.any Label.turnsLeft && !labels.all Label.isOrdered) ||
      written.isEmpty || written.any isForbiddenInDomain then none
  else some written

/-! ## Hosts -/

/-- An address in square brackets. -/
def bracketed? (cs : List Char) : Option String :=
  if cs.getLast? == some ']' then (ipv6? (cs.drop 1).dropLast).map ipv6Text else none

/-- The text of a host that can be looked up. -/
def hostText? (cs : List Char) : Option String :=
  if cs.head? == some '[' then bracketed? cs
  else do
    let domain ← domain? (← percentDecode? cs)
    if endsInNumber domain then return ipv4Text (← ipv4? domain) else return String.ofList domain

/-- Characters that no opaque host can hold. -/
def isForbiddenInHost (c : Char) : Bool :=
  "\x00\t\n\r #/:<>?@[\\]^|".toList.contains c

/-- The text of a host that only its scheme understands; it may be empty. -/
def opaqueHostText? (cs : List Char) : Option String :=
  if cs.head? == some '[' then bracketed? cs
  else if cs.any isForbiddenInHost then none
  else some (String.ofList (percentEncode isControl cs))

end SchemaCodegen.Url
