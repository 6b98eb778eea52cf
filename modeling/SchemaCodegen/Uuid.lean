import SchemaCodegen.Text.Digit

/-!
# Record identities

128-bit identities of stored records. They are written as hyphenated lower-case hexadecimal and
read in any case, also without hyphens, in braces, or behind `urn:uuid:`.
-/

namespace SchemaCodegen

structure Uuid where
  bits : BitVec 128
deriving DecidableEq, Repr

namespace Uuid

instance : Inhabited Uuid := ⟨⟨0⟩⟩

instance : Ord Uuid where
  compare a b := compare a.bits.toNat b.bits.toNat

/-- The 32 hexadecimal digits. -/
def digits (id : Uuid) : List Char :=
  (List.range 32).map fun i => Text.hexDigit (id.bits.toNat >>> (4 * (31 - i)) % 16)

/-- The digits without hyphens. -/
def simple (id : Uuid) : String :=
  String.ofList id.digits

/-- Groups of 8, 4, 4, 4 and 12 digits between hyphens. -/
def toText (id : Uuid) : String :=
  let ds := id.digits
  String.ofList (ds.take 8 ++ '-' :: (ds.drop 8).take 4 ++ '-' :: (ds.drop 12).take 4 ++ '-' ::
    (ds.drop 16).take 4 ++ '-' :: ds.drop 20)

/-- The identity that 32 digits write. -/
def ofDigits? (cs : List Char) : Option Uuid :=
  if cs.length = 32 then
    (Text.digitsValue? 16 cs).map fun n => ⟨BitVec.ofNat 128 n⟩
  else none

/-- The digits of a hyphenated text, its hyphens being where they belong. -/
def ofHyphenated? (cs : List Char) : Option Uuid :=
  if cs.length = 36 ∧ [8, 13, 18, 23].all (fun i => cs[i]? == some '-') then
    ofDigits? (cs.take 8 ++ (cs.drop 9).take 4 ++ (cs.drop 14).take 4 ++ (cs.drop 19).take 4 ++
      cs.drop 24)
  else none

def ofText? (s : String) : Option Uuid :=
  let cs := s.toList
  let urn := "urn:uuid:".toList
  if cs.length = 32 then ofDigits? cs
  else if cs.length = 36 then ofHyphenated? cs
  else if cs.length = 38 ∧ cs.head? = some '{' ∧ cs.getLast? = some '}' then
    ofHyphenated? ((cs.drop 1).take 36)
  else if cs.length = 45 ∧ urn.isPrefixOf cs then ofHyphenated? (cs.drop urn.length)
  else none

/-- The identity of a random kind with a given number in its free low bits; numbers below
`2 ^ 62` give different identities. -/
def ofNumber (n : Nat) : Uuid :=
  ⟨BitVec.ofNat 128 (1 <<< 78 + 1 <<< 63 + n % (1 <<< 62))⟩

end Uuid

end SchemaCodegen
