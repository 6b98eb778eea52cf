import SchemaCodegen.Text.Blank
import SchemaCodegen.Text.CaseTable

/-!
# Upper and lower case

Full case mappings: a character may map to several (`ß` becomes `SS`), and a capital sigma that
ends a word becomes a final sigma. ASCII letters go by core's own mapping.
-/

namespace SchemaCodegen.Text

def isAscii (c : Char) : Bool :=
  c.toNat < 0x80

/-- The image of a code point under the first run that holds it. -/
def CaseRun.image? (runs : List CaseRun) (n : Nat) : Option Nat :=
  (runs.find? fun r => r.first ≤ n && n ≤ r.last && (n - r.first) % r.step == 0).map
    fun r => (Int.ofNat n + r.offset).toNat

/-- The mapping of one character by an ASCII rule and the two tables of a direction. -/
def mapCase (ascii : Char → Char) (runs : List CaseRun) (expansions : List (Nat × List Nat))
    (c : Char) : List Char :=
  if isAscii c then [ascii c]
  else
    match expansions.lookup c.toNat with
    | some image => image.map Char.ofNat
    | none =>
      match CaseRun.image? runs c.toNat with
      | some image => [Char.ofNat image]
      | none => [c]

def upperChar (c : Char) : List Char :=
  mapCase Char.toUpper upperRuns upperExpansions c

def lowerChar (c : Char) : List Char :=
  mapCase Char.toLower lowerRuns lowerExpansions c

def upperChars (cs : List Char) : List Char :=
  cs.flatMap upperChar

def upper (s : String) : String :=
  String.ofList (upperChars s.toList)

def isCased (c : Char) : Bool :=
  inRanges casedRanges c.toNat

/-- A capital letter. The letters that join a capital to a small one have both forms beside their
own, and are none. -/
def isUpper (c : Char) : Bool :=
  isCased c && (inRanges capitalRanges c.toNat || (upperChar c == [c] && lowerChar c != [c]))

/-- A small letter, which may have no capital form. -/
def isLower (c : Char) : Bool :=
  isCased c && lowerChar c == [c] && !inRanges capitalRanges c.toNat

def isCaseIgnorable (c : Char) : Bool :=
  inRanges caseIgnorableRanges c.toNat

/-- Whether the next character that is not ignorable has case. -/
def meetsCased (cs : List Char) : Bool :=
  match cs.dropWhile isCaseIgnorable with
  | [] => false
  | c :: _ => isCased c

/-- Lower case of the text behind `before`, which is reversed. -/
def lowerFrom (before : List Char) : List Char → List Char
  | [] => []
  | c :: cs =>
    let image :=
      if c = 'Σ' then if meetsCased before && !meetsCased cs then ['ς'] else ['σ']
      else lowerChar c
    image ++ lowerFrom (c :: before) cs

def lower (s : String) : String :=
  String.ofList (lowerFrom [] s.toList)

theorem upperChars_cons (c : Char) (cs : List Char) :
    upperChars (c :: cs) = upperChar c ++ upperChars cs := by
  simp [upperChars]

/-- ASCII characters are mapped by core's own rule. -/
theorem upperChar_ascii {c : Char} (h : isAscii c = true) : upperChar c = [c.toUpper] := by
  simp [upperChar, mapCase, h]

end SchemaCodegen.Text
