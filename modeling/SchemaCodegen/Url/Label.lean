import SchemaCodegen.Text.Composition
import SchemaCodegen.Text.Direction
import SchemaCodegen.Text.Joining
import SchemaCodegen.Text.Printable
import SchemaCodegen.Url.Punycode

/-!
# Labels of domains

A label is a part of a domain between two points. It is shown with any letters and written in
ASCII. Labels that nobody could tell from others, or whose characters a line would put in disorder,
are refused.
-/

namespace SchemaCodegen.Url

/-- A label as it is shown and as it is written. -/
structure Label where
  shown : List Char
  written : List Char

/-- The one spelling of text in domains. -/
def canonical (cs : List Char) : List Char :=
  Text.composed (Text.foldChars cs)

namespace Label

/-- What a label in Punycode starts with. -/
def codedStart : List Char :=
  "xn--".toList

/-- The length of the longest text that is written in Punycode. -/
def writtenLimit : Nat := 1000

/-- The length of the longest text that is read as Punycode. -/
def readLimit : Nat := 2000

/-- The label that Punycode writes. It has to need it, and to be shown in its one spelling. -/
def ofPunycode? (cs : List Char) : Option Label := do
  let shown ← if readLimit < cs.length then none else Punycode.decode? cs
  if shown.all Text.isAscii || canonical shown != shown then none
  else some ⟨shown, codedStart ++ cs⟩

/-- The label of canonical text. -/
def ofChars? (cs : List Char) : Option Label :=
  if Text.startsWith codedStart cs then ofPunycode? (cs.drop codedStart.length)
  else if cs.all Text.isAscii then some ⟨cs, cs⟩
  else if writtenLimit < cs.length then none
  else some ⟨cs, codedStart ++ Punycode.encode cs⟩

/-! ## Characters -/

/-- Characters that stand for text with a point in it, that describe ideographs, or that stand for
what is not known. -/
def refusedRanges : List (Nat × Nat) :=
  [(0x2024, 0x2026), (0x2488, 0x249B), (0x2FF0, 0x2FFF), (0x31EF, 0x31EF), (0x33C2, 0x33C2),
   (0x33C7, 0x33C7), (0x33D8, 0x33D8), (0xFE19, 0xFE19), (0xFE30, 0xFE30), (0xFE52, 0xFE52),
   (0xFFFC, 0xFFFD), (0x1F100, 0x1F100)]

/-- The character that breaks the join of two letters. -/
def nonJoiner : Char := '\u200c'

/-- The character that asks for the join of two letters. -/
def joiner : Char := '\u200d'

def holds (c : Char) : Bool :=
  (Text.isPrintable c || Text.isMark c || c = nonJoiner || c = joiner) &&
    !Text.inRanges refusedRanges c.toNat

/-- Whether a character of a text satisfies the test, marks at the start being passed over. -/
def meets (test : Char → Bool) (cs : List Char) : Bool :=
  match cs.dropWhile Text.isNonspacing with
  | [] => false
  | c :: _ => test c

/-- Whether the text, reversed, ends in a mark that takes the vowel from a letter. -/
def endsInVirama : List Char → Bool
  | [] => false
  | c :: _ => Text.combiningClass c = 9

/-- Whether every joiner stands where it changes how letters look: behind a virama or, if it breaks
a join, between two letters with one. The text behind `before`, which is reversed, is looked at. -/
def joinersFit (before : List Char) : List Char → Bool
  | [] => true
  | c :: cs =>
    let fits :=
      if c = joiner then endsInVirama before
      else if c = nonJoiner then
        endsInVirama before || (meets Text.joinsNext before && meets Text.joinsPrevious cs)
      else true
    fits && joinersFit (c :: before) cs

/-- Whether the label holds what a label may; one in ASCII is not looked at. -/
def isValid (label : Label) : Bool :=
  label.shown.all Text.isAscii ||
    (!label.shown.head?.any Text.isMark && label.shown.all holds && joinersFit [] label.shown)

/-! ## Directions -/

def directions (label : Label) : List Text.Direction :=
  label.shown.map Text.Direction.ofChar

/-- Whether a part of the label is written from right to left. -/
def turnsLeft (label : Label) : Bool :=
  label.directions.any fun d => d = .rightToLeft || d = .arabicNumber

/-- Whether the label keeps its characters together and in one order beside any other label. It
starts with a letter, has no letter of the other direction, and ends in a letter or a digit. -/
def isOrdered (label : Label) : Bool :=
  let all := label.directions
  match all, all.reverse.dropWhile (· == .mark) with
  | .leftToRight :: _, last :: _ =>
    !label.turnsLeft && (last = .leftToRight || last = .europeanNumber)
  | .rightToLeft :: _, last :: _ =>
    !all.contains .leftToRight && !(all.contains .europeanNumber && all.contains .arabicNumber) &&
      (last = .rightToLeft || last = .europeanNumber || last = .arabicNumber)
  | [], _ => true
  | _, _ => false

end Label

end SchemaCodegen.Url
