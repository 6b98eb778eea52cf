import SchemaCodegen.Json.Decoder
import SchemaCodegen.Json.Printer

/-!
# Two-slot hash histories

The fingerprint of an entity and the one that it had before its last change. Older ones are
forgotten.
-/

namespace SchemaCodegen

structure HashPair where
  current : String
  previous : Option String
deriving DecidableEq, Repr, Inhabited

namespace HashPair

/-- The history of an entity that is seen for the first time. -/
def first (hash : String) : HashPair :=
  ⟨hash, none⟩

/-- Makes `fresh` the current hash; the one that it differs from becomes the previous one. -/
def rotate (pair : HashPair) (fresh : String) : HashPair :=
  if pair.current = fresh then pair else ⟨fresh, some pair.current⟩

/-- Whether `rotate` moves the current hash. -/
def rotates (pair : HashPair) (fresh : String) : Bool :=
  pair.current != fresh

/-- Whether the previous hash is absent or another one than the current. -/
def hasChanged (pair : HashPair) : Bool :=
  pair.previous != some pair.current

def toJson (pair : HashPair) : Json :=
  .object <| ("current", .text pair.current) :: Json.optionalMember "previous" .text pair.previous

def decode : Json.Decoder HashPair :=
  Json.Record.decode <| HashPair.mk <$> .required "current" Json.Decode.text
    <*> .optional "previous" Json.Decode.text

end HashPair

end SchemaCodegen
