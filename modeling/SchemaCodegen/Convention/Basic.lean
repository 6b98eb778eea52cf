import SchemaCodegen.Json.Decoder
import SchemaCodegen.Json.Printer
import SchemaCodegen.Text.Search
import SchemaCodegen.Text.Blank

/-!
# Column conventions

What changes how code is generated for a column. Each convention but the plain one has a code of
three letters, by which tags and names select it.
-/

namespace SchemaCodegen

inductive Convention where
  | none
  /-- Hashed when written and never read back. -/
  | oneWayEncryption
  /-- Encrypted where it is stored. -/
  | twoWayEncryption
  | lookup
  | enumeration
  | localized
  /-- Computed by the database. -/
  | calculated
  /-- Kept up to date by logic on the server. -/
  | businessLogic
  /-- An aggregate kept up to date elsewhere. -/
  | aggregate
  | separateUpdate
  | upload
  | fakeUniqueIndex
  | separateChangedBy
  | separateList
deriving DecidableEq, Repr, Inhabited

namespace Convention

/-- The conventions that have a code, in the order in which they are looked up. -/
def coded : List Convention :=
  [.oneWayEncryption, .twoWayEncryption, .lookup, .enumeration, .localized, .calculated,
   .businessLogic, .aggregate, .separateUpdate, .upload, .separateChangedBy, .separateList,
   .fakeUniqueIndex]

def code? : Convention → Option String
  | .none => Option.none
  | .oneWayEncryption => some "ENO"
  | .twoWayEncryption => some "ENT"
  | .lookup => some "LKP"
  | .enumeration => some "ENM"
  | .localized => some "LOC"
  | .calculated => some "CLC"
  | .businessLogic => some "BLG"
  | .aggregate => some "AGG"
  | .separateUpdate => some "SPT"
  | .upload => some "UPL"
  | .fakeUniqueIndex => some "FUI"
  | .separateChangedBy => some "SCB"
  | .separateList => some "SPL"

/-- The start of a column name that selects the convention, such as `eno_`. -/
def nameStart? (c : Convention) : Option String :=
  c.code?.map fun code => Text.asciiLower code ++ "_"

/-- The code, or `NONE`. -/
def display (c : Convention) : String :=
  c.code?.getD "NONE"

/-- Blanks around a code and underscores behind it do not count. -/
def codeKey (text : String) : List Char :=
  Text.dropCharEnd '_' (Text.trimChars text.toList)

/-- The convention of a code in any case. -/
def ofCode? (text : String) : Option Convention :=
  coded.find? fun c => c.code?.any fun code => Text.sameIgnoringAsciiCase code.toList (codeKey text)

/-- The convention of a code, or of the word `none`. -/
def ofText? (text : String) : Option Convention :=
  if Text.sameIgnoringAsciiCase (Text.trimChars text.toList) "none".toList then some .none
  else ofCode? text

/-- The message for text that is no code. -/
def unknownCode (text : String) : String :=
  "unknown convention code: " ++ text

/-- Clients may read the value and never write it. -/
def isReadOnly : Convention → Bool
  | .calculated | .businessLogic | .aggregate => true
  | _ => false

/-- The column is left out of the common update. -/
def isExcludedFromUpdate (c : Convention) : Bool :=
  c.isReadOnly || c == .oneWayEncryption || c == .separateUpdate

/-! ## JSON -/

def jsonNames : List (String × Convention) :=
  [("none", .none), ("oneWayEncryption", .oneWayEncryption),
   ("twoWayEncryption", .twoWayEncryption), ("lookup", .lookup), ("enum", .enumeration),
   ("localized", .localized), ("calculated", .calculated), ("businessLogic", .businessLogic),
   ("aggregate", .aggregate), ("separateUpdate", .separateUpdate), ("upload", .upload),
   ("fakeUniqueIndex", .fakeUniqueIndex), ("separateChangedBy", .separateChangedBy),
   ("separateList", .separateList)]

def jsonName (c : Convention) : String :=
  ((jsonNames.find? fun entry => entry.2 == c).map (·.1)).getD "none"

def toJson (c : Convention) : Json :=
  .text c.jsonName

def decode : Json.Decoder Convention :=
  Json.Decode.variant jsonNames

end Convention

end SchemaCodegen
