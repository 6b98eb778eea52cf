/-!
# Shortest decimals

The text of a double: the fewest digits that read back as it, of two such digit strings the nearer
one, and of two that are equally near the larger one. A double is `m * 2 ^ q`; the reals that round
to it form an interval, which is searched with one digit, two digits and so on up to seventeen, in
exact arithmetic.
-/

namespace SchemaCodegen.Decimal

/-- A finite positive double as `mantissa * 2 ^ exponent`. -/
structure Binary where
  mantissa : Nat
  exponent : Int
  /-- The double below lies only half as far away as the one above. -/
  closeBelow : Bool

/-- The mantissa and exponent that the lower 63 bits of a double encode. -/
def Binary.ofBits (bits : Nat) : Binary :=
  let fraction : Nat := bits % (1 <<< 52)
  let biased : Nat := bits >>> 52 % (1 <<< 11)
  if biased = 0 then ⟨fraction, -1074, false⟩
  else ⟨fraction + 1 <<< 52, (biased : Int) - 1075, fraction = 0 && 1 < biased⟩

/-- Numerator and denominator of `n * base ^ e`. -/
def scaled (n base : Nat) (e : Int) : Nat × Nat :=
  if 0 ≤ e then (n * Nat.pow base e.toNat, 1) else (n, Nat.pow base (-e).toNat)

/-- The interval of reals that round to a double, over one denominator. -/
structure Interval where
  low : Nat
  value : Nat
  high : Nat
  denominator : Nat
  closed : Bool

def Interval.ofBinary (b : Binary) : Interval :=
  let (unit, denominator) := scaled 1 2 (b.exponent - 2)
  { low := (4 * b.mantissa - (if b.closeBelow then 1 else 2)) * unit
    value := 4 * b.mantissa * unit
    high := (4 * b.mantissa + 2) * unit
    denominator := denominator
    closed := b.mantissa % 2 = 0 }

/-- Whether `digits * 10 ^ power` lies in the interval. -/
def Interval.holds (i : Interval) (digits : Nat) (power : Int) : Bool :=
  let (n, d) := scaled digits 10 power
  let x := n * i.denominator
  if i.closed then i.low * d ≤ x && x ≤ i.high * d else i.low * d < x && x < i.high * d

/-- How far `digits * 10 ^ power` lies from the value, in units that depend on `power` only. -/
def Interval.distance (i : Interval) (digits : Nat) (power : Int) : Nat :=
  let (n, d) := scaled digits 10 power
  let x := n * i.denominator
  let v := i.value * d
  if x ≤ v then v - x else x - v

/-- The better of the two multiples of `10 ^ power` next to the value, if one is in the interval. -/
def Interval.nearest? (i : Interval) (power : Int) : Option Nat :=
  let (p, d) := scaled 1 10 power
  let below := i.value * d / (p * i.denominator)
  let above := below + 1
  match i.holds below power && below != 0, i.holds above power with
  | true, true =>
    let x := i.distance below power
    let y := i.distance above power
    if x < y then some below else some above
  | true, false => some below
  | false, true => some above
  | false, false => none

/-- The least power of ten above the value, found from its size in bits. -/
def Interval.magnitude (i : Interval) : Int :=
  let bits : Int := Int.ofNat (Nat.log2 i.value) - Int.ofNat (Nat.log2 i.denominator)
  let guess := bits * 30103 / 100000
  let isBelow (power : Int) : Bool :=
    let (n, d) := scaled 1 10 power
    i.value * d < n * i.denominator
  ((List.range 4).map fun (k : Nat) => guess - 1 + k).find? isBelow |>.getD (guess + 3)

/-- Digits and a power of ten whose product reads back as the double. -/
def shortest (b : Binary) : Nat × Int :=
  let i := Interval.ofBinary b
  let magnitude := i.magnitude
  let found := (List.range 18).findSome? fun n =>
    let power := magnitude - (n + 1 : Nat)
    (i.nearest? power).map (·, power)
  found.getD (b.mantissa, b.exponent)

/-- Digits without zeros at the end, and the power of ten that makes up for them. -/
def dropZeros : Nat → Nat → Int → Nat × Int
  | 0, digits, power => (digits, power)
  | fuel + 1, digits, power =>
    if digits != 0 && digits % 10 = 0 then dropZeros fuel (digits / 10) (power + 1)
    else (digits, power)

/-- A number in positional notation, with at least one digit before and after the point. -/
def positional (digits : Nat) (power : Int) : List Char :=
  let (digits, power) := dropZeros 20 digits power
  let text := (Nat.repr digits).toList
  if 0 ≤ power then text ++ List.replicate power.toNat '0' ++ ['.', '0']
  else
    let places := (-power).toNat
    let text := List.replicate (places + 1 - text.length) '0' ++ text
    text.take (text.length - places) ++ '.' :: text.drop (text.length - places)

/-- A number with one digit before the point and a power of ten. -/
def scientific (digits : Nat) (power : Int) : List Char :=
  let (digits, power) := dropZeros 20 digits power
  let text := (Nat.repr digits).toList
  let fraction := if text.length = 1 then [] else '.' :: text.drop 1
  text.take 1 ++ fraction ++ 'e' :: (toString (power + (text.length - 1 : Nat))).toList

/-- A double as text: a notation for the digits of a finite one, or a word. -/
def charsWith (notate : Nat → Int → List Char) (x : Float) : List Char :=
  let bits := x.toBits.toNat
  let sign := if bits >>> 63 = 1 then ['-'] else []
  let magnitude := bits % (1 <<< 63)
  if x.isNaN then "NaN".toList
  else if x.isInf then sign ++ "inf".toList
  else if magnitude = 0 then sign ++ "0.0".toList
  else
    let (digits, power) := shortest (.ofBits magnitude)
    sign ++ notate digits power

/-- A double in positional notation. -/
def text (x : Float) : String :=
  String.ofList (charsWith positional x)

/-- A double in positional notation from a ten-thousandth up to ten to the sixteenth, and in
scientific notation outside of that range. -/
def conciseText (x : Float) : String :=
  let size := x.abs
  let notate := if 1e16 ≤ size || size < 1e-4 then scientific else positional
  String.ofList (charsWith notate x)

/-! ## Exact arithmetic on doubles -/

/-- A finite double as an integer over a power of two. -/
def toFraction (x : Float) : Int × Int :=
  let bits := x.toBits.toNat
  let b := Binary.ofBits (bits % (1 <<< 63))
  (if bits >>> 63 = 1 then -(b.mantissa : Int) else b.mantissa, b.exponent)

/-- The double `n * 2 ^ e`, for results that a double holds exactly. -/
def ofFraction (n e : Int) : Float :=
  let magnitude := Float.scaleB (Float.ofNat n.natAbs) e
  if n < 0 then -magnitude else magnitude

/-- The remainder with the sign of the dividend. -/
def remainder (x y : Float) : Float :=
  if x.isNaN || y.isNaN || x.isInf || y == 0.0 then 0.0 / 0.0
  else if y.isInf then x
  else
    let (m, e) := toFraction x
    let (n, f) := toFraction y
    let low := min e f
    let r := (m * Nat.pow 2 (e - low).toNat).tmod (n * Nat.pow 2 (f - low).toNat)
    if r = 0 then (if x < 0.0 || x.toBits.toNat >>> 63 = 1 then -0.0 else 0.0)
    else ofFraction r low

/-- The part of a double before the point. -/
def truncate (x : Float) : Float :=
  if x < 0.0 then x.ceil else x.floor

/-- The integer before the point. -/
def toInt (x : Float) : Int :=
  if x.isNaN || x.isInf then 0
  else
    let (m, e) := toFraction x
    if 0 ≤ e then m * Nat.pow 2 e.toNat else m.tdiv (Nat.pow 2 (-e).toNat)

/-- Whether a finite double has nothing behind the point. -/
def isWhole (x : Float) : Bool :=
  !x.isNaN && !x.isInf && x.floor == x

end SchemaCodegen.Decimal
