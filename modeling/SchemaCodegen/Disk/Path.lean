import SchemaCodegen.Text.Search

/-!
# Paths

A path is kept as it is written, because messages and reports show it that way; its components
are read off the text. Empty segments and `.` segments count for nothing, except a `.` at the
start of a relative path.
-/

namespace SchemaCodegen

structure Path where
  text : String
deriving DecidableEq, Repr, Inhabited

namespace Path

inductive Component where
  | root
  /-- A `.` at the start of a relative path. -/
  | here
  /-- A `..` segment. -/
  | up
  | name (text : String)
deriving DecidableEq, Repr

def isEmpty (p : Path) : Bool :=
  p.text.isEmpty

def isAbsolute (p : Path) : Bool :=
  p.text.toList.head? == some '/'

/-- The parts between slashes. -/
def segments (p : Path) : List String :=
  Text.splitOnChar p.text '/'

/-- A segment that names nothing. -/
def isIdle (segment : String) : Bool :=
  segment == "" || segment == "."

def Component.ofSegment (segment : String) : Component :=
  if segment == ".." then .up else .name segment

def components (p : Path) : List Component :=
  let segments := p.segments
  let start : List Component :=
    if p.isAbsolute then [.root] else if segments.head? == some "." then [.here] else []
  start ++ (segments.filter (!isIdle ·)).map Component.ofSegment

/-! ## Parts of a path -/

/-- The text in front of the part that segments are dropped from: a slash or a `.` at the start. -/
def anchor (p : Path) : String :=
  if p.isAbsolute then "/" else if p.segments.head? == some "." then "." else ""

/-- The segments behind the anchor without idle ones at the end, outermost first. -/
def bodySegments (p : Path) : List String :=
  let body := String.ofList (p.text.toList.drop p.anchor.length)
  ((Text.splitOnChar body '/').reverse.dropWhile isIdle).reverse

def ofBody (anchor : String) (segments : List String) : Path :=
  ⟨anchor ++ String.intercalate "/" segments⟩

/-- The last segment, if it is a name. -/
def fileName? (p : Path) : Option String :=
  match p.bodySegments.getLast? with
  | some segment => if segment == ".." then none else some segment
  | none => none

/-- The path without its last component. -/
def parent? (p : Path) : Option Path :=
  let body := p.bodySegments
  if body.isEmpty then if p.anchor == "." then some ⟨""⟩ else none
  else some (ofBody p.anchor (body.dropLast.reverse.dropWhile isIdle).reverse)

/-- The parent, unless it is the empty path. -/
def realParent? (p : Path) : Option Path :=
  p.parent?.filter (!·.isEmpty)

/-- The path `q` seen from `p`. -/
def join (p : Path) (q : String) : Path :=
  if q.toList.head? == some '/' then ⟨q⟩
  else if p.isEmpty || p.text.toList.getLast? == some '/' then ⟨p.text ++ q⟩
  else ⟨p.text ++ "/" ++ q⟩

/-- The path with its file name replaced, or with the name added if it has none. -/
def withFileName (p : Path) (name : String) : Path :=
  match p.fileName? with
  | some _ => (p.parent?.getD ⟨""⟩).join name
  | none => p.join name

/-- A file name cut at its last point: stem and extension. A point at the start does not count. -/
def splitExtension (name : String) : String × Option String :=
  let cs := name.toList
  let extension := (cs.reverse.takeWhile (· != '.')).reverse
  let stem := cs.take (cs.length - extension.length - 1)
  if extension.length = cs.length || stem.isEmpty then (name, none)
  else (String.ofList stem, some (String.ofList extension))

def extension? (p : Path) : Option String :=
  p.fileName?.bind fun name => (splitExtension name).2

/-- The path with its extension replaced; an empty one is left out with its point. -/
def withExtension (p : Path) (extension : String) : Path :=
  match p.fileName? with
  | none => p
  | some name =>
    let stem := (splitExtension name).1
    let last := if extension.isEmpty then stem else stem ++ "." ++ extension
    ofBody p.anchor (p.bodySegments.dropLast ++ [last])

/-- The path with text added behind a point. -/
def withSuffix (p : Path) (suffix : String) : Path :=
  ⟨p.text ++ "." ++ suffix⟩

/-- The path from the root, seen from the directory `base`: idle segments and slashes at the end are
dropped, `..` segments stay. Paths with the same components come out as one text. -/
def absoluteFrom (base : Path) (p : Path) : Path :=
  let start : List String :=
    if p.isAbsolute then [] else base.segments.filter (!isIdle ·)
  ⟨"/" ++ String.intercalate "/" (start ++ p.segments.filter (!isIdle ·))⟩

end Path

end SchemaCodegen
