/-!
# Searching text

Finding, counting, splitting and replacing a piece of text. Occurrences are taken from left to
right and do not overlap: after one is found, the search goes on behind it.
-/

namespace SchemaCodegen.Text

/-- Whether `piece` stands at the start of the text. -/
def startsWith (piece cs : List Char) : Bool :=
  piece.isPrefixOf cs

/-- Whether `piece` stands somewhere in the text. -/
def containsChars (piece : List Char) : List Char → Bool
  | [] => piece.isEmpty
  | c :: cs => startsWith piece (c :: cs) || containsChars piece cs

def contains (s piece : String) : Bool :=
  containsChars piece.toList s.toList

/-- How often `piece` occurs, the first `skip` characters being part of an occurrence already
counted. An empty piece occurs before each character and at the end. -/
def countFrom (piece : List Char) : Nat → List Char → Nat
  | _, [] => if piece.isEmpty then 1 else 0
  | skip + 1, _ :: cs => countFrom piece skip cs
  | 0, c :: cs =>
    if startsWith piece (c :: cs) then countFrom piece (piece.length - 1) cs + 1
    else countFrom piece 0 cs

/-- How often `piece` occurs without overlap. -/
def count (s piece : String) : Nat :=
  countFrom piece.toList 0 s.toList

/-- The text with every occurrence of `piece` replaced, `skip` as in `countFrom`. -/
def replaceFrom (piece image : List Char) : Nat → List Char → List Char
  | _, [] => if piece.isEmpty then image else []
  | skip + 1, _ :: cs => replaceFrom piece image skip cs
  | 0, c :: cs =>
    if piece.isEmpty then image ++ c :: replaceFrom piece image 0 cs
    else if startsWith piece (c :: cs) then image ++ replaceFrom piece image (piece.length - 1) cs
    else c :: replaceFrom piece image 0 cs

def replace (s piece image : String) : String :=
  String.ofList (replaceFrom piece.toList image.toList 0 s.toList)

/-- The text cut around the first occurrence of a non-empty `piece`. -/
def cutChars (piece : List Char) : List Char → Option (List Char × List Char)
  | [] => none
  | c :: cs =>
    if startsWith piece (c :: cs) then some ([], (c :: cs).drop piece.length)
    else (cutChars piece cs).map fun (before, after) => (c :: before, after)

/-- What stands before and after the first occurrence of `piece`. -/
def splitOnce (s piece : String) : Option (String × String) :=
  (cutChars piece.toList s.toList).map fun (a, b) => (String.ofList a, String.ofList b)

/-- The first occurrence of `piece` replaced. -/
def replaceFirst (s piece image : String) : String :=
  match cutChars piece.toList s.toList with
  | none => s
  | some (before, after) => String.ofList (before ++ image.toList ++ after)

/-- The parts between the occurrences of a non-empty `piece`, at most `limit` cuts being made;
`skip` as in `countFrom` and `part` the current part, reversed. -/
def splitFrom (piece : List Char) (limit : Nat) (part : List Char) :
    Nat → List Char → List (List Char)
  | _, [] => [part.reverse]
  | skip + 1, _ :: cs => splitFrom piece limit part skip cs
  | 0, c :: cs =>
    if 0 < limit && startsWith piece (c :: cs) then
      part.reverse :: splitFrom piece (limit - 1) [] (piece.length - 1) cs
    else splitFrom piece limit (c :: part) 0 cs

/-- The parts between the occurrences of a non-empty `piece`. -/
def splitChars (piece cs : List Char) : List (List Char) :=
  splitFrom piece (cs.length + 1) [] 0 cs

def split (s piece : String) : List String :=
  (splitChars piece.toList s.toList).map String.ofList

/-- The parts between the characters that satisfy `sep`. -/
def splitWhere (sep : Char → Bool) : List Char → List (List Char)
  | [] => [[]]
  | c :: cs =>
    if sep c then [] :: splitWhere sep cs
    else
      match splitWhere sep cs with
      | [] => [[c]]
      | part :: parts => (c :: part) :: parts

/-- The parts between the occurrences of a character. -/
def splitOnChar (s : String) (sep : Char) : List String :=
  (splitWhere (· == sep) s.toList).map String.ofList

/-- ASCII letters in lower case, all else as it is. -/
def asciiLower (s : String) : String :=
  String.ofList (s.toList.map Char.toLower)

/-- Equality up to the case of ASCII letters. -/
def sameIgnoringAsciiCase (a b : List Char) : Bool :=
  a.map Char.toLower == b.map Char.toLower

theorem splitWhere_ne_nil (sep : Char → Bool) (cs : List Char) : splitWhere sep cs ≠ [] := by
  induction cs with
  | nil => simp [splitWhere]
  | cons c cs ih =>
    unfold splitWhere
    split
    · simp
    · split <;> simp

end SchemaCodegen.Text
