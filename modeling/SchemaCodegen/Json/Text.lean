import SchemaCodegen.Json.Reader
import SchemaCodegen.Json.Decoder

/-!
# Decoding JSON text

A text is read and decoded in one go; what follows the value is looked at last.
-/

namespace SchemaCodegen.Json

/-- Data from a text that holds one value and nothing else. -/
def decodeText {α : Type} (decode : Decoder α) (s : String) : Except Refusal α :=
  let reading := read s
  match decode reading.value with
  | .error refusal => .error refusal
  | .ok a => if reading.hasTail then .error .malformed else .ok a

end SchemaCodegen.Json
