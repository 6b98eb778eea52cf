import SchemaCodegen.Text.Case
import SchemaCodegen.Text.Digit
import SchemaCodegen.Text.FoldingTable
import SchemaCodegen.Text.Search

/-!
# Folding

Characters that readers take for the same are folded into one spelling: capitals become small
letters, ligatures and wide letters become plain ones, and what shows nothing disappears. Sharp s
and the final sigma keep their forms, and so do the joiners of cursive scripts.
-/

namespace SchemaCodegen.Text

/-- The words of a table's row. -/
def rowWords (row : String) : List (List Char) :=
  splitWhere (· == ' ') row.toList

/-- The character of a table's code point in hexadecimal notation. -/
def rowChar (word : List Char) : Char :=
  Char.ofNat ((digitsValue? 16 word).getD 0)

/-- The image of a code point, if the table says something about it. -/
def foldingImage? (n : Nat) : Option (List Char) := do
  let (first, row) ← (foldingRows.takeWhile (·.1 ≤ n)).getLast?
  let word ← (rowWords row)[n - first]?
  if word == ['.'] then none else some ((splitWhere (· == '+') word).map rowChar)

/-- The characters that one folds into. -/
def foldChar (c : Char) : List Char :=
  if inRanges ignoredRanges c.toNat then []
  else (foldingImage? c.toNat).getD (lowerChar c)

def foldChars (cs : List Char) : List Char :=
  cs.flatMap foldChar

theorem foldChars_append (a b : List Char) : foldChars (a ++ b) = foldChars a ++ foldChars b := by
  simp [foldChars]

end SchemaCodegen.Text
