import SchemaCodegen.Text.CompositionTable
import SchemaCodegen.Text.Folding

/-!
# Composed characters

One character may be written as a letter and the marks on it. `composed` chooses one of the
spellings: text is taken apart, the marks of each letter are put in the order of their classes, and
every mark that can join its letter joins it. Main statement: ordering only moves characters.
-/

namespace SchemaCodegen.Text

/-- A character that is made of two others. -/
structure Composition where
  first : Char
  second : Char
  whole : Char

/-- The compositions with one second character, from its row's words. -/
def rowCompositions (second : Char) : List (List Char) → List Composition
  | first :: whole :: words =>
    ⟨rowChar first, second, rowChar whole⟩ :: rowCompositions second words
  | _ => []

def compositions : List Composition :=
  compositionRows.flatMap fun (second, row) => rowCompositions (Char.ofNat second) (rowWords row)

def combiningClass (c : Char) : Nat :=
  match classRuns.find? fun r => r.first ≤ c.toNat && c.toNat ≤ r.last with
  | none => 0
  | some run => run.value

/-! ## Hangul

A syllable is a leading consonant, one of 21 vowels and perhaps one of 27 trailing consonants, so
its code point is a number of three digits. -/

/-- The number of a character from a first one on, below a bound. -/
def offsetFrom? (first bound : Nat) (c : Char) : Option Nat :=
  if first ≤ c.toNat && c.toNat < first + bound then some (c.toNat - first) else none

def splitSyllable? (c : Char) : Option (Char × Char) := do
  let n ← offsetFrom? 0xAC00 11172 c
  if n % 28 = 0 then
    return (Char.ofNat (0x1100 + n / 588), Char.ofNat (0x1161 + n / 28 % 21))
  else return (Char.ofNat (c.toNat - n % 28), Char.ofNat (0x11A7 + n % 28))

def joinSyllable? (a b : Char) : Option Char :=
  match offsetFrom? 0x1100 19 a, offsetFrom? 0x1161 21 b with
  | some lead, some vowel => some (Char.ofNat (0xAC00 + 588 * lead + 28 * vowel))
  | _, _ => do
    let n ← offsetFrom? 0xAC00 11172 a
    let trail ← offsetFrom? 0x11A8 27 b
    if n % 28 = 0 then some (Char.ofNat (a.toNat + trail + 1)) else none

/-! ## Taking apart -/

/-- The two parts of a character. -/
def split? (c : Char) : Option (Char × Char) :=
  match splitSyllable? c with
  | some parts => some parts
  | none => (compositions.find? (·.whole == c)).map fun p => (p.first, p.second)

/-- The characters that one is made of, in at most `depth` steps. -/
def partsOf : Nat → Char → List Char
  | 0, c => [c]
  | depth + 1, c =>
    match split? c with
    | none => [c]
    | some (a, b) => partsOf depth a ++ partsOf depth b

/-- The characters that one is made of. No letter of the table carries as many as four marks. -/
def parts (c : Char) : List Char :=
  partsOf 4 c

/-! ## Ordering marks -/

/-- Puts a mark behind the marks of lower classes, but not behind the next letter. -/
def placeMark (c : Char) : List Char → List Char
  | [] => [c]
  | d :: ds =>
    if 0 < combiningClass d && combiningClass d < combiningClass c then d :: placeMark c ds
    else c :: d :: ds

/-- The text with the marks of each letter by their classes; marks of one class keep their
order. -/
def orderMarks (cs : List Char) : List Char :=
  cs.foldr placeMark []

theorem placeMark_perm (c : Char) (cs : List Char) : (placeMark c cs).Perm (c :: cs) := by
  induction cs with
  | nil => exact .refl _
  | cons d ds ih =>
    unfold placeMark
    split
    · exact (ih.cons d).trans (.swap c d ds)
    · exact .refl _

/-- Ordering neither adds nor removes a character. -/
theorem orderMarks_perm (cs : List Char) : (orderMarks cs).Perm cs := by
  induction cs with
  | nil => exact .refl _
  | cons c cs ih => exact (placeMark_perm c (orderMarks cs)).trans (ih.cons c)

/-! ## Joining -/

/-- The character that two make. -/
def join? (a b : Char) : Option Char :=
  match joinSyllable? a b with
  | some c => some c
  | none => (compositions.find? fun p => p.first == a && p.second == b).map (·.whole)

/-- Joins what follows a letter to it. The marks between the two could not join; a mark whose class
is not above the last one's is kept from the letter by it. -/
def composeFrom (letter : Char) (marks : List Char) : List Char → List Char
  | [] => letter :: marks.reverse
  | c :: cs =>
    let isApart := match marks with
      | [] => false
      | mark :: _ => combiningClass c ≤ combiningClass mark
    match if isApart then none else join? letter c with
    | some whole => composeFrom whole marks cs
    | none =>
      if combiningClass c = 0 then letter :: marks.reverse ++ composeFrom c [] cs
      else composeFrom letter (c :: marks) cs

/-- Each letter with the marks that can join it. -/
def compose : List Char → List Char
  | [] => []
  | c :: cs => composeFrom c [] cs

/-- The spelling with as few characters as there can be. -/
def composed (cs : List Char) : List Char :=
  compose (orderMarks (cs.flatMap parts))

end SchemaCodegen.Text
