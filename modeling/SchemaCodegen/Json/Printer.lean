import SchemaCodegen.Json.Basic
import SchemaCodegen.Text.Digit

/-!
# Writing JSON text

Two layouts: `Json.compact` without any space, which hashes are taken of, and `Json.pretty` with
two spaces per level, which files are written in. Characters beyond ASCII stand for themselves.
-/

namespace SchemaCodegen.Json

/-- A character inside a string: quotes, backslashes and control characters are escaped. -/
def escapeChar (c : Char) : List Char :=
  if c = '"' then ['\\', '"']
  else if c = '\\' then ['\\', '\\']
  else if c = '\x08' then ['\\', 'b']
  else if c = '\x0c' then ['\\', 'f']
  else if c = '\n' then ['\\', 'n']
  else if c = '\r' then ['\\', 'r']
  else if c = '\t' then ['\\', 't']
  else if c.toNat < 0x20 then
    ['\\', 'u', '0', '0', Text.hexDigit (c.toNat / 16), Text.hexDigit (c.toNat % 16)]
  else [c]

def quoted (s : String) : List Char :=
  '"' :: (s.toList.flatMap escapeChar ++ ['"'])

def numberChars : Number → List Char
  | .integer value => (toString value).toList
  | .decimal negative significand exponent =>
    (if negative then ['-'] else []) ++ (Nat.repr significand).toList ++ 'e' ::
      (toString exponent).toList

mutual

/-- A value on one line without spaces. -/
def compactChars : Json → List Char
  | .null => "null".toList
  | .bool value => (if value then "true" else "false").toList
  | .number value => numberChars value
  | .text value => quoted value
  | .array items => '[' :: compactItems true items
  | .object members => '{' :: compactMembers true members
  | .flawed _ => []
  | .unread _ => []

def compactItems (isFirst : Bool) : List Json → List Char
  | [] => [']']
  | item :: items =>
    (if isFirst then [] else [',']) ++ compactChars item ++ compactItems false items

def compactMembers (isFirst : Bool) : List (String × Json) → List Char
  | [] => ['}']
  | (name, value) :: members =>
    (if isFirst then [] else [',']) ++ quoted name ++ ':' :: compactChars value ++
      compactMembers false members

end

/-- The start of a line at a level. -/
def indent (level : Nat) : List Char :=
  '\n' :: List.replicate (2 * level) ' '

mutual

/-- A value whose inner lines stand at the level behind `level`. -/
def prettyChars (level : Nat) : Json → List Char
  | .null => "null".toList
  | .bool value => (if value then "true" else "false").toList
  | .number value => numberChars value
  | .text value => quoted value
  | .array [] => ['[', ']']
  | .array items => '[' :: prettyItems level true items
  | .object [] => ['{', '}']
  | .object members => '{' :: prettyMembers level true members
  | .flawed _ => []
  | .unread _ => []

def prettyItems (level : Nat) (isFirst : Bool) : List Json → List Char
  | [] => indent level ++ [']']
  | item :: items =>
    (if isFirst then [] else [',']) ++ indent (level + 1) ++ prettyChars (level + 1) item ++
      prettyItems level false items

def prettyMembers (level : Nat) (isFirst : Bool) : List (String × Json) → List Char
  | [] => indent level ++ ['}']
  | (name, value) :: members =>
    (if isFirst then [] else [',']) ++ indent (level + 1) ++ quoted name ++ ':' :: ' ' ::
      prettyChars (level + 1) value ++ prettyMembers level false members

end

def compact (value : Json) : String :=
  String.ofList (compactChars value)

def pretty (value : Json) : String :=
  String.ofList (prettyChars 0 value)

/-! ## Building values -/

def ofInt (n : Int) : Json :=
  .number (.integer n)

def ofNat (n : Nat) : Json :=
  .number (.integer n)

/-- A missing value is written as null. -/
def ofOption {α : Type} (f : α → Json) : Option α → Json
  | none => .null
  | some a => f a

def ofList {α : Type} (f : α → Json) (as : List α) : Json :=
  .array (as.map f)

def ofTexts (ss : List String) : Json :=
  ofList .text ss

/-- A member that is left out when there is no value. -/
def optionalMember {α : Type} (name : String) (f : α → Json) : Option α → List (String × Json)
  | none => []
  | some a => [(name, f a)]

end SchemaCodegen.Json
