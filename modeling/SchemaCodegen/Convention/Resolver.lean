import Std.Data.ExtTreeMap
import SchemaCodegen.Convention.Basic
import SchemaCodegen.Text.Case

/-!
# Resolving conventions

A chain of rules looks at a column's name and its properties; the first rule that answers wins,
and a column that no rule answers for is plain.
-/

namespace SchemaCodegen

/-- Free-form properties of a column, by key. -/
abbrev Properties := Std.ExtTreeMap String String

namespace Properties

/-- One `key=value` part of a comment; a part without `=` or with a blank key says nothing. -/
def pair? (part : List Char) : Option (String × String) := do
  let (key, value) ← Text.cutChars ['='] part
  let key := Text.trimChars key
  if key.isEmpty then none
  else some (String.ofList key, String.ofList (Text.trimChars value))

/-- The properties that a comment of the form `key=value;key=value` writes. The last value of a
repeated key counts. -/
def ofComment (comment : String) : Properties :=
  ((Text.splitWhere (· == ';') comment.toList).filterMap pair?).foldl
    (fun properties (key, value) => properties.insert key value) ∅

/-- The comment that writes the properties in the order of their keys. -/
def toComment (properties : Properties) : String :=
  String.intercalate ";" (properties.toList.map fun (key, value) => key ++ "=" ++ value)

def toJson (properties : Properties) : Json :=
  .object (properties.toList.map fun (key, value) => (key, .text value))

def decode : Json.Decoder Properties := fun value =>
  (Json.Decode.members Json.Decode.text value).map fun members =>
    members.foldl (fun properties (key, value) => properties.insert key value) ∅

end Properties

namespace Convention

/-- The property that carries an explicit code. -/
def tagKey : String := "ccType"

inductive Rule where
  /-- The code in the tag property, the first of its parts between commas that is not blank. -/
  | tag
  /-- A name that starts with a code and an underscore, in any case. -/
  | nameStart
  /-- A name whose upper case starts with one of the oldest codes. -/
  | legacyCode
deriving DecidableEq, Repr

/-- The codes that were once used without an underscore. -/
def legacyCodes : List (String × Convention) :=
  [("ENO", .oneWayEncryption), ("ENT", .twoWayEncryption), ("LKP", .lookup),
   ("ENM", .enumeration)]

def ofTag? (value : String) : Option Convention := do
  let parts := (Text.splitOnChar value ',').map Text.trim
  ofCode? (← parts.find? fun part => !part.isEmpty)

/-- Whether the name starts with these ASCII characters in any case. -/
def startsIgnoringCase (start name : List Char) : Bool :=
  Text.sameIgnoringAsciiCase start (name.take start.length)

def ofNameStart? (name : String) : Option Convention :=
  coded.find? fun c => c.nameStart?.any fun start => startsIgnoringCase start.toList name.toList

def ofLegacyName? (name : String) : Option Convention :=
  let upper := Text.upperChars name.toList
  (legacyCodes.find? fun entry => Text.startsWith entry.1.toList upper).map (·.2)

def Rule.answer? (rule : Rule) (name : String) (properties : Option Properties) :
    Option Convention :=
  match rule with
  | .tag => (properties.bind fun ps => ps[tagKey]?).bind ofTag?
  | .nameStart => ofNameStart? name
  | .legacyCode => ofLegacyName? name

/-- A chain of rules, the first ones first. -/
abbrev Resolver := List Rule

/-- The chain that is used unless another is asked for. -/
def Resolver.standard : Resolver :=
  [.tag, .nameStart, .legacyCode]

def Resolver.resolve (rules : Resolver) (name : String) (properties : Option Properties) :
    Convention :=
  (rules.findSome? fun rule => rule.answer? name properties).getD .none

end Convention

end SchemaCodegen
