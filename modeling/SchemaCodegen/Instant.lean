import SchemaCodegen.Text.Blank

/-!
# Instants

Points in time in UTC, with nanoseconds, and their RFC 3339 text. A leap second is kept: it is a
second whose nanoseconds run on past one thousand million. Text is written with 0, 3, 6 or 9
digits of a second's fraction, the fewest that lose nothing, and read more leniently.
-/

namespace SchemaCodegen

/-- Seconds since the start of 1970 and nanoseconds behind them. -/
structure Instant where
  seconds : Int
  nanos : Nat
deriving DecidableEq, Repr, Inhabited

namespace Instant

instance : Ord Instant where
  compare a b := (compare a.seconds b.seconds).then (compare a.nanos b.nanos)

/-- Whether `a` lies before `b`. -/
def isBefore (a b : Instant) : Bool :=
  compare a b == .lt

/-! ## Calendar -/

/-- Days from the start of 1970 to a date of the proleptic Gregorian calendar. -/
def daysOfDate (year month day : Int) : Int :=
  let y := if month ≤ 2 then year - 1 else year
  let era := y.fdiv 400
  let yearOfEra := y - era * 400
  let dayOfYear := (153 * ((month + 9) % 12) + 2) / 5 + day - 1
  let dayOfEra := yearOfEra * 365 + yearOfEra / 4 - yearOfEra / 100 + dayOfYear
  era * 146097 + dayOfEra - 719468

/-- The date of a day counted from the start of 1970. -/
def dateOfDays (days : Int) : Int × Int × Int :=
  let z := days + 719468
  let era := z.fdiv 146097
  let dayOfEra := z - era * 146097
  let yearOfEra := (dayOfEra - dayOfEra / 1460 + dayOfEra / 36524 - dayOfEra / 146096) / 365
  let dayOfYear := dayOfEra - (365 * yearOfEra + yearOfEra / 4 - yearOfEra / 100)
  let monthFromMarch := (5 * dayOfYear + 2) / 153
  let day := dayOfYear - (153 * monthFromMarch + 2) / 5 + 1
  let month := if monthFromMarch < 10 then monthFromMarch + 3 else monthFromMarch - 9
  let year := yearOfEra + era * 400
  (if month ≤ 2 then year + 1 else year, month, day)

def isLeapYear (year : Int) : Bool :=
  year % 4 == 0 && (year % 100 != 0 || year % 400 == 0)

def daysInMonth (year month : Int) : Int :=
  if month = 2 then if isLeapYear year then 29 else 28
  else if month = 4 || month = 6 || month = 9 || month = 11 then 30
  else 31

/-! ## Writing -/

/-- A number with at least `width` digits. -/
def padded (width n : Nat) : List Char :=
  let digits := (Nat.repr n).toList
  List.replicate (width - digits.length) '0' ++ digits

/-- The fraction of a second, in as many groups of three digits as it needs. -/
def fractionChars (nanos : Nat) : List Char :=
  if nanos = 0 then []
  else if nanos % 1000000 = 0 then '.' :: padded 3 (nanos / 1000000)
  else if nanos % 1000 = 0 then '.' :: padded 6 (nanos / 1000)
  else '.' :: padded 9 nanos

/-- Years of more than four digits and years before 0 have a sign. -/
def yearChars (year : Int) : List Char :=
  if 0 ≤ year ∧ year ≤ 9999 then padded 4 year.toNat
  else (if year < 0 then '-' else '+') :: padded 4 year.natAbs

/-- Date, hour, minute, second and nanoseconds; the second is 60 in a leap second. -/
def fields (t : Instant) : (Int × Int × Int) × Nat × Nat × Nat × Nat :=
  let days := t.seconds.fdiv 86400
  let ofDay := (t.seconds - days * 86400).toNat
  let leap := 1000000000 ≤ t.nanos
  (dateOfDays days, ofDay / 3600, ofDay / 60 % 60, ofDay % 60 + (if leap then 1 else 0),
    if leap then t.nanos - 1000000000 else t.nanos)

def toChars (t : Instant) : List Char :=
  let ((year, month, day), hour, minute, second, nanos) := t.fields
  yearChars year ++ '-' :: padded 2 month.toNat ++ '-' :: padded 2 day.toNat ++ 'T' ::
    padded 2 hour ++ ':' :: padded 2 minute ++ ':' :: padded 2 second ++ fractionChars nanos ++
    ['Z']

def toText (t : Instant) : String :=
  String.ofList t.toChars

/-- The form `YYYYMMDD_HHMMSS_mmm` that marks a backup. -/
def stamp (t : Instant) : String :=
  let ((year, month, day), hour, minute, second, nanos) := t.fields
  String.ofList (yearChars year ++ padded 2 month.toNat ++ padded 2 day.toNat ++ '_' ::
    padded 2 hour ++ padded 2 minute ++ padded 2 second ++ '_' :: padded 3 (nanos / 1000000))

/-- The start of the year 2000, from which databases count. -/
def databaseEpoch : Int := 946684800

/-- Microseconds since the start of the year 2000, cut towards it. -/
def databaseMicroseconds (t : Instant) : Int :=
  ((t.seconds - databaseEpoch) * 1000000000 + t.nanos).tdiv 1000

/-- The instant as databases keep it, in whole microseconds and without leap seconds. -/
def toMicroseconds (t : Instant) : Instant :=
  let n := t.databaseMicroseconds
  ⟨databaseEpoch + n / 1000000, (n % 1000000).toNat * 1000⟩

/-! ## Reading -/

/-- From one to `most` digits at the start of the text, behind blanks. -/
def readNat (most : Nat) (cs : List Char) : Option (Nat × List Char) :=
  let cs := Text.dropBlanks cs
  let digits := (cs.take most).takeWhile Char.isDigit
  if digits.isEmpty then none
  else some (digits.foldl (fun n c => 10 * n + (c.toNat - '0'.toNat)) 0, cs.drop digits.length)

/-- A year: four digits at most, or any number of digits behind a sign. -/
def readYear (cs : List Char) : Option (Int × List Char) :=
  match Text.dropBlanks cs with
  | '-' :: cs =>
    if cs.head?.any Char.isDigit then
      (readNat cs.length cs).map fun (n, cs) => (-(n : Int), cs)
    else none
  | '+' :: cs =>
    if cs.head?.any Char.isDigit then (readNat cs.length cs).map fun (n, cs) => ((n : Int), cs)
    else none
  | cs => (readNat 4 cs).map fun (n, cs) => ((n : Int), cs)

/-- A separator behind blanks. -/
def readMark (mark : Char) (cs : List Char) : Option (List Char) :=
  match Text.dropBlanks cs with
  | c :: cs => if c = mark then some cs else none
  | [] => none

/-- The digits behind a point, the first nine of which count. -/
def readFraction (cs : List Char) : Option (Nat × List Char) :=
  match cs with
  | '.' :: cs =>
    let digits := cs.takeWhile Char.isDigit
    let kept := digits.take 9
    if digits.isEmpty then none
    else
      let n := kept.foldl (fun n c => 10 * n + (c.toNat - '0'.toNat)) 0
      some (n * Nat.pow 10 (9 - kept.length), cs.drop digits.length)
  | cs => some (0, cs)

/-- The offset from UTC in seconds. -/
def readOffset (cs : List Char) : Option (Int × List Char) :=
  let signed (negative : Bool) (cs : List Char) : Option (Int × List Char) :=
    match cs with
    | a :: b :: cs =>
      if a.isDigit && b.isDigit then
        match cs.dropWhile fun c => c = ':' || Text.isBlank c with
        | c :: d :: cs =>
          if c.isDigit && d.isDigit && c < '6' then
            let digit (c : Char) : Int := (c.toNat - '0'.toNat : Nat)
            let offset := (digit a * 10 + digit b) * 3600 + (digit c * 10 + digit d) * 60
            some (if negative then -offset else offset, cs)
          else none
        | _ => none
      else none
    | _ => none
  match cs with
  | 'Z' :: cs | 'z' :: cs => some (0, cs)
  | '+' :: cs => signed false cs
  | '-' :: cs => signed true cs
  | '−' :: cs => signed true cs
  | a :: b :: c :: cs => if [a, b, c].map Char.toUpper = ['U', 'T', 'C'] then some (0, cs) else none
  | _ => none

/-- Whether the calendar that is supported reaches this year. -/
def isSupportedYear (year : Int) : Bool :=
  -262143 ≤ year && year ≤ 262142

/-- The instant of a date and a time of day at an offset from UTC. -/
def ofFields? (year month day : Int) (hour minute second nanos : Nat) (offset : Int) :
    Option Instant :=
  let isDate := isSupportedYear year && 1 ≤ month && month ≤ 12 && 1 ≤ day &&
    day ≤ daysInMonth year month
  let isTime := hour < 24 && minute < 60 && second ≤ 60
  let isOffset := -86400 < offset && offset < 86400
  if isDate && isTime && isOffset then
    let leap := second = 60
    let ofDay : Int := hour * 3600 + minute * 60 + (if leap then 59 else second)
    let t : Instant :=
      ⟨daysOfDate year month day * 86400 + ofDay - offset,
        if leap then nanos + 1000000000 else nanos⟩
    if isSupportedYear t.fields.1.1 then some t else none
  else none

def ofChars? (cs : List Char) : Option Instant := do
  let (year, cs) ← readYear cs
  let cs ← readMark '-' cs
  let (month, cs) ← readNat 2 cs
  let cs ← readMark '-' cs
  let (day, cs) ← readNat 2 cs
  let cs ← match cs with
    | 'T' :: cs | 't' :: cs | ' ' :: cs => some cs
    | _ => none
  let (hour, cs) ← readNat 2 cs
  let cs ← readMark ':' cs
  let (minute, cs) ← readNat 2 cs
  let cs ← readMark ':' cs
  let (second, cs) ← readNat 2 cs
  let (nanos, cs) ← readFraction cs
  let (offset, cs) ← readOffset (Text.dropBlanks cs)
  if (Text.dropBlanks cs).isEmpty then ofFields? year month day hour minute second nanos offset
  else none

/-- Reads RFC 3339 text; a blank may stand for the `T`, and the colon of an offset may be left
out. -/
def ofText? (s : String) : Option Instant :=
  ofChars? s.toList

end Instant

end SchemaCodegen
