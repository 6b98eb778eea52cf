import SchemaCodegen.Text.Case

/-!
# Punycode

Text in ASCII. The ASCII characters come first; behind the last hyphen, numbers say which other
characters stand where. The characters are taken by their code points, and a number counts the steps
from one insertion to the next, a step being a place in the text or, at its end, the next code
point. Main statement: the digits of numbers are read as they are written.
-/

namespace SchemaCodegen.Url.Punycode

/-- A digit: letters for the first 26 values, then decimal digits. -/
def digit (n : Nat) : Char :=
  if n < 26 then Char.ofNat ('a'.toNat + n) else Char.ofNat ('0'.toNat + (n - 26))

def digitValue? (c : Char) : Option Nat :=
  if 'a' ≤ c ∧ c ≤ 'z' then some (c.toNat - 'a'.toNat)
  else if 'A' ≤ c ∧ c ≤ 'Z' then some (c.toNat - 'A'.toNat)
  else if c.isDigit then some (c.toNat - '0'.toNat + 26)
  else none

theorem digitValue?_digit {n : Nat} (h : n < 36) : digitValue? (digit n) = some n := by
  have digits : ∀ i ∈ List.range 36, digitValue? (digit i) = some i := by decide
  exact digits n (List.mem_range.2 h)

/-- The digits below this value end a number, `place` being 36 times the digit's place. -/
def threshold (bias place : Nat) : Nat :=
  if place ≤ bias then 1 else if bias + 26 ≤ place then 26 else place - bias

theorem threshold_pos (bias place : Nat) : 0 < threshold bias place := by
  unfold threshold
  repeat' split
  all_goals omega

/-- The bias that suits a number of the given size, `place` being where it starts from. -/
def biasFor (size place : Nat) : Nat :=
  if 455 < size then biasFor (size / 35) (place + 36) else place + 36 * size / (size + 38)
termination_by size

/-- The bias behind a number, the text then having `count` characters. -/
def adaptBias (number count : Nat) (isFirst : Bool) : Nat :=
  let size := number / (if isFirst then 700 else 2)
  biasFor (size + size / count) 0

/-! ## Writing -/

/-- The digits of a number, the first one weighing least. -/
def numberDigits (bias place n : Nat) : List Char :=
  let t := threshold bias place
  if n < t then [digit n]
  else digit (t + (n - t) % (36 - t)) :: numberDigits bias (place + 36) ((n - t) / (36 - t))
termination_by n
decreasing_by
  have := threshold_pos bias place
  exact Nat.lt_of_le_of_lt (Nat.div_le_self _ _) (by omega)

/-- How far writing has come: the code point, the steps since the last insertion, the bias, how many
characters have their places, and the digits. -/
structure Writing where
  point : Nat
  steps : Nat
  bias : Nat
  count : Nat
  digits : List Char

/-- Writes where one code point stands. -/
def Writing.place (ascii : Nat) (text : List Char) (w : Writing) (point : Nat) : Writing :=
  let start := { w with steps := w.steps + (point - w.point) * (w.count + 1), point }
  let done := text.foldl (fun w c =>
    if c.toNat < point then { w with steps := w.steps + 1 }
    else if c.toNat = point then
      { w with
        digits := w.digits ++ numberDigits w.bias 36 w.steps
        bias := adaptBias w.steps (w.count + 1) (w.count == ascii)
        steps := 0
        count := w.count + 1 }
    else w) start
  { done with steps := done.steps + 1, point := point + 1 }

def encode (text : List Char) : List Char :=
  let ascii := text.filter Text.isAscii
  let points := ((text.filter fun c => !Text.isAscii c).map Char.toNat).mergeSort.eraseDups
  let numbers := points.foldl (Writing.place ascii.length text) ⟨0x80, 0, 72, ascii.length, []⟩
  (if ascii.isEmpty then [] else ascii ++ ['-']) ++ numbers.digits

/-! ## Reading -/

/-- How far reading has come: the text, the code point and the place of the next insertion without
the number being read, that number as far as it is known, the weight and the place of its next
digit, and the bias. -/
structure Reading where
  text : List Char
  point : Nat
  start : Nat
  number : Nat
  weight : Nat
  place : Nat
  bias : Nat

/-- Inserts a character after as many steps as a number says. -/
def Reading.insert? (r : Reading) (number : Nat) : Option Reading :=
  let count := r.text.length + 1
  let steps := r.start + number
  let point := r.point + steps / count
  if point.isValidChar then
    some {
      text := r.text.insertIdx (steps % count) (Char.ofNat point)
      point
      start := steps % count + 1
      number := 0
      weight := 1
      place := 36
      bias := adaptBias number count (r.start == 0) }
  else none

/-- Takes one digit. -/
def Reading.take? (r : Reading) (c : Char) : Option Reading := do
  let value ← digitValue? c
  let number := r.number + value * r.weight
  let t := threshold r.bias r.place
  if value < t then r.insert? number
  else some { r with number, weight := r.weight * (36 - t), place := r.place + 36 }

/-- The text that ASCII characters and the digits of numbers stand for; the last number has to
end. -/
def insertAll? (ascii digits : List Char) : Option (List Char) := do
  let read ← digits.foldlM Reading.take? ⟨ascii, 0x80, 0, 0, 1, 36, 72⟩
  if read.place = 36 then some read.text else none

/-- The text that was written. The ASCII characters end before the last hyphen, but a hyphen at the
start does not end them. -/
def decode? (cs : List Char) : Option (List Char) :=
  let digits := (cs.reverse.takeWhile (· != '-')).reverse
  let ascii := cs.take (cs.length - digits.length - 1)
  if cs.all Text.isAscii then insertAll? ascii (if ascii.isEmpty then cs else digits) else none

end SchemaCodegen.Url.Punycode
