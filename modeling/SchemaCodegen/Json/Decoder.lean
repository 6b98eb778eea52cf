import SchemaCodegen.Json.Basic

/-!
# Decoding JSON values

Decoders turn a value into data of a known shape. Of several problems the one that lies leftmost
in the text is reported. A record is written as an object, or as an array of its fields in
declaration order; members that the record does not know are skipped, and a field that is missing
is noticed at the closing brace.
-/

namespace SchemaCodegen.Json

/-- Why a value was not accepted. -/
inductive Refusal where
  /-- The text ended too early. -/
  | ended
  /-- The text is not JSON, or continues behind the value. -/
  | malformed
  /-- A value of another shape than expected. -/
  | mismatch
  | missingField (name : String)
  | duplicateField (name : String)
  | unknownVariant (name : String)
deriving DecidableEq, Repr, Inhabited

def Fault.refusal : Fault → Refusal
  | .malformed => .malformed
  | _ => .ended

/-- The refusal of a value that has not the shape that was expected. -/
def refusal : Json → Refusal
  | .unread fault => fault.refusal
  | .flawed _ => .malformed
  | _ => .mismatch

mutual

/-- The refusal of a value that is not read to its end without faults. -/
def flaw? : Json → Option Refusal
  | .unread fault => some fault.refusal
  | .flawed _ => some .malformed
  | .array items => itemsFlaw? items
  | .object members => membersFlaw? members
  | _ => none

def itemsFlaw? : List Json → Option Refusal
  | [] => none
  | item :: items => (flaw? item).or (itemsFlaw? items)

def membersFlaw? : List (String × Json) → Option Refusal
  | [] => none
  | (_, value) :: members => (flaw? value).or (membersFlaw? members)

end

abbrev Decoder (α : Type) := Json → Except Refusal α

namespace Decode

/-- A value of any shape. -/
def any : Decoder Json := fun value =>
  match value.flaw? with
  | some refusal => .error refusal
  | none => .ok value

def text : Decoder String
  | .text value => .ok value
  | value => .error value.refusal

def bool : Decoder Bool
  | .bool value => .ok value
  | value => .error value.refusal

/-- An integer from `lo` to `hi`. -/
def intBetween (lo hi : Int) : Decoder Int
  | .number (.integer n) => if lo ≤ n ∧ n ≤ hi then .ok n else .error .mismatch
  | value => .error value.refusal

def natBelow (bound : Nat) : Decoder Nat
  | .number (.integer n) => if 0 ≤ n ∧ n < bound then .ok n.toNat else .error .mismatch
  | value => .error value.refusal

/-- Null stands for no value. -/
def option {α : Type} (decode : Decoder α) : Decoder (Option α)
  | .null => .ok none
  | value => (decode value).map some

/-- An array, its items from left to right. -/
def list {α : Type} (decode : Decoder α) : Decoder (List α)
  | .array items => items.mapM decode
  | value => .error value.refusal

/-- An object with names that are not known beforehand. -/
def members {α : Type} (decode : Decoder α) : Decoder (List (String × α))
  | .object members => members.mapM fun (name, value) => (decode value).map (name, ·)
  | value => .error value.refusal

/-- Text of a given form. -/
def parsed {α : Type} (parse : String → Option α) : Decoder α := fun value => do
  match parse (← text value) with
  | some a => .ok a
  | none => .error .mismatch

/-- What may follow the null in a variant that is written as an object. -/
def variantEnd : List (String × Json) → Except Refusal Unit
  | [] => .ok ()
  | (_, .unread .ended) :: _ => .error .ended
  | _ => .error .malformed

/-- One of a list of names, written as text or as the name of an object's only member. -/
def variant {α : Type} (variants : List (String × α)) : Decoder α
  | .text name =>
    match variants.lookup name with
    | some a => .ok a
    | none => .error (.unknownVariant name)
  | .object [] => .error .malformed
  | .object ((_, .unread fault) :: _) => .error fault.refusal
  | .object ((name, value) :: rest) =>
    match variants.lookup name with
    | none => .error (.unknownVariant name)
    | some a =>
      match value with
      | .null => (variantEnd rest).map fun _ => a
      | value => .error value.refusal
  | .unread .ended => .error .ended
  | .unread .endedAfterComma => .error .ended
  | .flawed (some .ended) => .error .malformed
  | _ => .error .malformed

end Decode

/-! ## Records -/

/-- A refusal and the place of its member, by which several are compared. -/
structure Complaint where
  position : Nat
  refusal : Refusal

/-- Where a record's fields are read from. -/
inductive Source where
  | named (members : List (String × Json))
  /-- The fields by position, the first of `items` being at place `offset`. -/
  | listed (items : List Json) (offset : Nat)

/-- The source that is left for the fields behind the first `n`. -/
def Source.after (n : Nat) : Source → Source
  | .named members => .named members
  | .listed items offset => .listed (items.drop n) (offset + n)

/-- A reader of the fields `names`. -/
structure Record (α : Type) where
  names : List String
  read : Source → Except Complaint α

namespace Record

def pure {α : Type} (a : α) : Record α :=
  ⟨[], fun _ => .ok a⟩

/-- Both readers; of two complaints the one with the smaller position. -/
def and {α β : Type} (f : Record (α → β)) (x : Record α) : Record β where
  names := f.names ++ x.names
  read source :=
    match f.read source, x.read (source.after f.names.length) with
    | .ok f, .ok a => .ok (f a)
    | .ok _, .error c => .error c
    | .error c, .ok _ => .error c
    | .error c, .error d => .error (if c.position ≤ d.position then c else d)

instance : Applicative Record where
  pure := Record.pure
  seq f x := Record.and f (x ())

/-- The members from the first one with this name on. -/
def fromName (name : String) (members : List (String × Json)) : List (String × Json) :=
  members.dropWhile fun m => m.1 != name

/-- The place of the first member with this name. -/
def placeOf (name : String) (members : List (String × Json)) : Nat :=
  (members.takeWhile fun m => m.1 != name).length

/-- A field with a decoder; `missing` tells what holds for an absent one, by name and by place. -/
def field {α : Type} (name : String) (decode : Decoder α) (missingName missingPlace :
    Except Refusal α) : Record α where
  names := [name]
  read
    | .named members =>
      match fromName name members with
      | [] => missingName.mapError (⟨members.length + 1, ·⟩)
      | (_, value) :: rest =>
        let place := placeOf name members
        match decode value with
        | .error refusal => .error ⟨place, refusal⟩
        | .ok a =>
          if (fromName name rest).isEmpty then .ok a
          else .error ⟨place + 1 + placeOf name rest, .duplicateField name⟩
    | .listed [] offset => missingPlace.mapError (⟨offset, ·⟩)
    | .listed (value :: _) offset => (decode value).mapError (⟨offset, ·⟩)

/-- A field that has to be there. -/
def required {α : Type} (name : String) (decode : Decoder α) : Record α :=
  field name decode (.error (.missingField name)) (.error .mismatch)

/-- A field that may be null, or absent from an object. -/
def optional {α : Type} (name : String) (decode : Decoder α) : Record (Option α) :=
  field name (Decode.option decode) (.ok none) (.error .mismatch)

/-- A field that stands for `value` where it is absent. -/
def withDefault {α : Type} (name : String) (decode : Decoder α) (value : α) : Record α :=
  field name decode (.ok value) (.ok value)

/-- The first fault in the members that are skipped, and its place. -/
def skippedFault (names : List String) : Nat → List (String × Json) → Option Complaint
  | _, [] => none
  | place, (name, value) :: members =>
    match if names.contains name then none else value.skipFault with
    | some fault => some ⟨place, fault.refusal⟩
    | none => skippedFault names (place + 1) members

/-- What may follow the fields of a record that is written as an array. -/
def listEnd : List Json → Except Refusal Unit
  | [] => .ok ()
  | .unread .ended :: _ => .error .ended
  | _ => .error .malformed

def decode {α : Type} (record : Record α) : Decoder α
  | .object members =>
    match record.read (.named members), skippedFault record.names 0 members with
    | .ok a, none => .ok a
    | .ok _, some c => .error c.refusal
    | .error c, none => .error c.refusal
    | .error c, some d => .error (if c.position < d.position then c.refusal else d.refusal)
  | .array items =>
    match record.read (.listed items 0) with
    | .error c => .error c.refusal
    | .ok a => (listEnd (items.drop record.names.length)).map fun _ => a
  | value => .error value.refusal

end Record

end SchemaCodegen.Json
