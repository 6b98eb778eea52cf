/-!
# JSON values

A JSON text as far as it can be read. Values of well-formed text use the first six constructors
only. The last two stand for places where reading met a problem: a decoder that needs such a
place is refused there, so of several problems in a text the leftmost one decides, whether it
lies in the text or in the shape of the value.
-/

namespace SchemaCodegen

/-- Why a text stops being JSON at some place. -/
inductive Json.Fault where
  /-- The text ends where something more has to come. -/
  | ended
  /-- The text ends inside a word or a number. -/
  | endedInWord
  /-- The text ends behind a comma. -/
  | endedAfterComma
  /-- A character that cannot stand here. -/
  | malformed
deriving DecidableEq, Repr, Inhabited

/-- A number as written: an integer of 64 bits, or a significand below `2 ^ 64` scaled by a power
of ten. -/
inductive Json.Number where
  | integer (value : Int)
  | decimal (negative : Bool) (significand : Nat) (exponent : Int)
deriving DecidableEq, Repr, Inhabited

inductive Json where
  | null
  | bool (value : Bool)
  | number (value : Json.Number)
  | text (value : String)
  | array (items : List Json)
  /-- Members in the order of the text, repeated names included. -/
  | object (members : List (String × Json))
  /-- A complete scalar without a value, such as a lone half of a surrogate pair. Only a reader
  that skips it goes on, until it meets `skipped`. -/
  | flawed (skipped : Option Json.Fault)
  /-- Reading stopped here. In an object it is the value of a last member without a name. -/
  | unread (fault : Json.Fault)
deriving Repr, Inhabited

namespace Json

/-! ## Doubles -/

/-- The largest power of ten that a double holds. -/
def powerLimit : Nat := 308

def powerOfTen (n : Nat) : Float :=
  Float.ofScientific 1 false n

/-- A double scaled by a power of ten, each step rounded; none if it becomes infinite. A power that
is too small for a double is divided by in several steps, of which three give zero. -/
def scale? : Nat → Float → Int → Option Float
  | 0, _, _ => some 0.0
  | steps + 1, x, exponent =>
    if exponent.natAbs ≤ powerLimit then
      if exponent < 0 then some (x / powerOfTen exponent.natAbs)
      else
        let y := x * powerOfTen exponent.natAbs
        if y.isInf then none else some y
    else if x == 0.0 then some 0.0
    else if 0 ≤ exponent then none
    else scale? steps (x / powerOfTen powerLimit) (exponent + powerLimit)

/-- The double that a number stands for, if it is finite. -/
def Number.toFloat? : Number → Option Float
  | .integer n => some (Float.ofInt n)
  | .decimal negative significand exponent =>
    (scale? 4 (Float.ofNat significand) exponent).map fun x => if negative then -x else x

mutual

/-- The first fault met by a reader that skips the value. -/
def skipFault : Json → Option Fault
  | .unread fault => some fault
  | .flawed skipped => skipped
  | .array items => skipItemsFault items
  | .object members => skipMembersFault members
  | _ => none

def skipItemsFault : List Json → Option Fault
  | [] => none
  | item :: items => (skipFault item).or (skipItemsFault items)

def skipMembersFault : List (String × Json) → Option Fault
  | [] => none
  | (_, value) :: members => (skipFault value).or (skipMembersFault members)

end

/-- A JSON object with its members ordered by name, the last of equal names kept. -/
def insertMember (name : String) (value : Json) : List (String × Json) → List (String × Json)
  | [] => [(name, value)]
  | (n, v) :: members =>
    if name = n then (name, value) :: members
    else if name < n then (name, value) :: (n, v) :: members
    else (n, v) :: insertMember name value members

mutual

/-- The value with the members of every object ordered by name, the last of equal names kept. -/
def ordered : Json → Json
  | .array items => .array (orderedItems items)
  | .object members => .object (orderedMembers members)
  | value => value

def orderedItems : List Json → List Json
  | [] => []
  | item :: items => ordered item :: orderedItems items

def orderedMembers (members : List (String × Json)) : List (String × Json) :=
  (orderedValues members).foldl (fun sorted (n, v) => insertMember n v sorted) []

def orderedValues : List (String × Json) → List (String × Json)
  | [] => []
  | (name, value) :: members => (name, ordered value) :: orderedValues members

end

/-- The value of the last member with this name. -/
def member? (name : String) : Json → Option Json
  | .object members => members.reverse.lookup name
  | _ => none

end Json

end SchemaCodegen
