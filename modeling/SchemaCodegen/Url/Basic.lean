import SchemaCodegen.Url.Host

/-!
# URLs

The parts of an absolute URL, read as browsers read it: blanks and controls around it are dropped,
tabs and line ends inside of it too, characters that a part cannot hold are percent-escaped, and
dot segments of the path are carried out.
-/

namespace SchemaCodegen

/-- The parts of a URL that name a resource on a host. -/
structure Url where
  scheme : String
  username : String
  password : Option String
  /-- None for a URL without a host, or with an empty one. -/
  host : Option String
  /-- None for the scheme's own port. -/
  port : Option Nat
  path : String
  query : Option String
deriving DecidableEq, Repr

namespace Url

/-- How a scheme treats hosts and paths. -/
inductive SchemeKind where
  | file
  /-- Schemes with hosts that can be looked up. -/
  | special
  | other
deriving DecidableEq

def schemeKind (scheme : String) : SchemeKind :=
  if scheme == "file" then .file
  else if ["http", "https", "ws", "wss", "ftp"].contains scheme then .special
  else .other

def SchemeKind.isSpecial : SchemeKind → Bool
  | .other => false
  | _ => true

def defaultPort? (scheme : String) : Option Nat :=
  if scheme == "http" || scheme == "ws" then some 80
  else if scheme == "https" || scheme == "wss" then some 443
  else if scheme == "ftp" then some 21
  else none

/-- Text without what is ignored: controls and blanks at the ends, tabs and line ends inside. -/
def clean (s : String) : List Char :=
  let isEdge (c : Char) : Bool := c.toNat ≤ 0x20
  let trimmed := ((s.toList.dropWhile isEdge).reverse.dropWhile isEdge).reverse
  trimmed.filter fun c => c != '\t' && c != '\n' && c != '\r'

/-- The scheme in lower case, and what follows its colon. -/
def cutScheme (cs : List Char) : Option (String × List Char) :=
  let isSchemeChar (c : Char) : Bool := c.isAlphanum || c = '+' || c = '-' || c = '.'
  let name := cs.takeWhile isSchemeChar
  match name, cs.dropWhile isSchemeChar with
  | c :: _, ':' :: rest =>
    if c.isAlpha then some (String.ofList (name.map Char.toLower), rest) else none
  | _, _ => none

/-- Whether a character separates parts of a path. -/
def isSlash (kind : SchemeKind) (c : Char) : Bool :=
  c = '/' || (kind.isSpecial && c = '\\')

/-- Whether a character ends the part with the host. -/
def endsAuthority (kind : SchemeKind) (c : Char) : Bool :=
  isSlash kind c || c = '?' || c = '#'

/-! ## Characters that are escaped -/

def isEscapedInPath (c : Char) : Bool :=
  isControl c || " \"<>`#?\x7b\x7d".toList.contains c

def isEscapedInUser (c : Char) : Bool :=
  isEscapedInPath c || "/:;=@[\\]^|".toList.contains c

/-! ## The part with the host -/

/-- A text cut around the last occurrence of a character. -/
def cutLast (mark : Char) (cs : List Char) : Option (List Char × List Char) :=
  let after := (cs.reverse.takeWhile (· != mark)).reverse
  if after.length = cs.length then none
  else some (cs.take (cs.length - after.length - 1), after)

/-- User name and password; an empty password is none. -/
def userOf (cs : List Char) : String × Option String :=
  let encode (part : List Char) : String := String.ofList (percentEncode isEscapedInUser part)
  let name := cs.takeWhile (· != ':')
  match cs.drop (name.length + 1) with
  | [] => (encode name, none)
  | password => (encode name, some (encode password))

/-- The host text and the port text behind a colon. -/
def cutPort : Bool → List Char → List Char × Option (List Char)
  | _, [] => ([], none)
  | inBrackets, c :: cs =>
    if c = ':' && !inBrackets then ([], some cs)
    else
      let (host, port) := cutPort (c = '[' || (inBrackets && c != ']')) cs
      (c :: host, port)

/-- The largest port. -/
def portLimit : Nat := 65535

/-- A port by its digits; none if there are no digits, or for the scheme's own port. -/
def readPort (scheme : String) (cs : List Char) : Option (Option Nat) :=
  let n := Json.digitsValue cs
  if !cs.all Char.isDigit || portLimit < n then none
  else if cs.isEmpty || defaultPort? scheme == some n then some none
  else some (some n)

/-- User, host and port. -/
structure Authority where
  username : String
  password : Option String
  host : Option String
  port : Option Nat

/-- Reads the part with the host. An empty host is only accepted by itself, and not at all by
schemes that look hosts up. -/
def authority? (scheme : String) (kind : SchemeKind) (hasRest : Bool) (cs : List Char) :
    Option Authority := do
  let (user, place) := match cutLast '@' cs with
    | some (user, place) => (some user, place)
    | none => (none, cs)
  if user == some [] && place.isEmpty && hasRest then none
  else
    let (username, password) := userOf (user.getD [])
    let hasUser := !username.isEmpty || password.isSome
    let (hostPart, portPart) := cutPort false place
    let host ← if kind == .other then opaqueHostText? hostPart else hostText? hostPart
    if host.isEmpty && (hasUser || portPart.isSome || kind.isSpecial) then none
    else
      let port ← match portPart with
        | some digits => readPort scheme digits
        | none => some none
      return ⟨username, password, if host.isEmpty then none else some host, port⟩

/-! ## The path -/

/-- A segment up to the escapes of points. -/
def plainSegment (cs : List Char) : String :=
  Text.replace (Text.asciiLower (String.ofList cs)) "%2e" "."

/-- Segments with those carried out that stay in or go back to the directory before them, which
leave an empty segment at the end of a path. -/
def resolveSegments : List String → List (List Char) → List String
  | done, [] => done.reverse
  | done, segment :: rest =>
    let plain := plainSegment segment
    let isLast := rest.isEmpty
    if plain == ".." then
      resolveSegments (if isLast then "" :: done.drop 1 else done.drop 1) rest
    else if plain == "." then resolveSegments (if isLast then "" :: done else done) rest
    else resolveSegments (String.ofList (percentEncode isEscapedInPath segment) :: done) rest

/-- The path that a text behind the host gives; the slash that starts it may be missing. -/
def pathText (kind : SchemeKind) (cs : List Char) : String :=
  match cs with
  | [] => if kind.isSpecial then "/" else ""
  | c :: rest =>
    let body := if isSlash kind c then rest else c :: rest
    "/" ++ String.intercalate "/" (resolveSegments [] (Text.splitWhere (isSlash kind) body))

/-- What stands before and behind a question mark. -/
def cutQuery (cs : List Char) : List Char × Option String :=
  let before := cs.takeWhile (· != '?')
  if before.length = cs.length then (cs, none)
  else (before, some (String.ofList (cs.drop (before.length + 1))))

/-! ## Whole URLs -/

/-- The part with the host, and what follows it. A backslash ends a port with any scheme. -/
def cutAuthority (kind : SchemeKind) (cs : List Char) : List Char × List Char :=
  let whole := cs.takeWhile (!endsAuthority kind ·)
  let place := ((cutLast '@' whole).map (·.2)).getD whole
  let port := (cutPort false place).2.getD []
  cs.splitAt (whole.length - (port.dropWhile (· != '\\')).length)

/-- A URL with a host; `rest` starts with the host. -/
def withAuthority (scheme : String) (kind : SchemeKind) (rest : List Char) : Option Url := do
  let (place, after) := cutAuthority kind rest
  let authority ← authority? scheme kind (!after.isEmpty) place
  let (path, query) := cutQuery (after.takeWhile (· != '#'))
  return ⟨scheme, authority.username, authority.password, authority.host, authority.port,
    pathText kind path, query⟩

/-- A URL without a host. -/
def withoutAuthority (scheme : String) (rest : List Char) : Url :=
  let (path, query) := cutQuery (rest.takeWhile (· != '#'))
  ⟨scheme, "", none, none, none, String.ofList path, query⟩

/-- A letter and a colon or a bar, which name a drive. -/
def isDrive : List Char → Bool
  | [c, d] => c.isAlpha && (d = ':' || d = '|')
  | _ => false

/-- Whether the first segment that a path keeps is a drive, `depth` of them being kept so far. -/
def startsWithDrive : Nat → List (List Char) → Bool
  | _, [] => false
  | depth, segment :: rest =>
    let plain := plainSegment segment
    if plain == ".." then startsWithDrive (depth - 1) rest
    else if plain == "." then startsWithDrive depth rest
    else (depth = 0 && isDrive segment) || startsWithDrive (depth + 1) rest

/-- A URL of a file. A host `localhost` is none, and a drive in the path leaves no host. -/
def ofFile (rest : List Char) : Option Url :=
  match rest with
  | a :: b :: rest =>
    if isSlash .file a && isSlash .file b then do
      let place := rest.takeWhile (!endsAuthority .file ·)
      if isDrive place then return withoutAuthority "file" rest
      else
        let after := rest.drop place.length
        let host ← if place.isEmpty then some "" else hostText? place
        let (path, query) := cutQuery (after.takeWhile (· != '#'))
        let segments := Text.splitWhere (isSlash .file) (path.drop 1)
        let isNone := host.isEmpty || host == "localhost" || startsWithDrive 0 segments
        return ⟨"file", "", none, if isNone then none else some host, none, pathText .file path,
          query⟩
    else some (withoutAuthority "file" (a :: b :: rest))
  | rest => some (withoutAuthority "file" rest)

/-- Reads an absolute URL. -/
def ofText? (s : String) : Option Url := do
  let (scheme, rest) ← cutScheme (clean s)
  match schemeKind scheme with
  | .file => ofFile rest
  | .special => withAuthority scheme .special (rest.dropWhile (isSlash .special))
  | .other =>
    match rest with
    | '/' :: '/' :: rest => withAuthority scheme .other rest
    | rest => some (withoutAuthority scheme rest)

/-- The names and values of a query, escapes being carried out and plus signs standing for
blanks. -/
def queryPairs (url : Url) : List (String × String) :=
  let decode (cs : List Char) : String :=
    (percentDecode? (cs.map fun c => if c = '+' then ' ' else c)).getD ""
  let parts := Text.splitOnChar (url.query.getD "") '&'
  (parts.filter (!·.isEmpty)).map fun part =>
    let cs := part.toList
    let name := cs.takeWhile (· != '=')
    (decode name, decode (cs.drop (name.length + 1)))

end Url

end SchemaCodegen
