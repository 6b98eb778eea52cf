import Mathlib.Algebra.Group.Nat.Defs
import SchemaCodegen.Instant
import SchemaCodegen.Proofs.Json.Reading

/-!
# Instants as text and back

An instant that a clock can show is read back from its text just as it was
(`Instant.ofText?_toText`). Its date comes from a count of days: the years of an era of 400 start in
March, so that the leap day is the last of its year, and counting the days of the date gives the
count back. Each part of the text is taken up by its reader, and what follows a part cannot go on
with it.
-/

namespace SchemaCodegen.Instant

/-! ## Calendar -/

section Calendar

variable {d : Int}

/-- The year of a day, both counted in an era of 400 years. -/
def yearOfEra (d : Int) : Int :=
  (d - d / 1460 + d / 36524 - d / 146096) / 365

/-- The day of a day's year, which starts in March. -/
def dayOfYear (d : Int) : Int :=
  d - (365 * yearOfEra d + yearOfEra d / 4 - yearOfEra d / 100)

theorem yearOfEra_bounds (h : 0 ≤ d ∧ d ≤ 146096) : 0 ≤ yearOfEra d ∧ yearOfEra d ≤ 399 := by
  unfold yearOfEra
  omega

/-- A year of 366 days is followed by a leap year of the calendar. -/
theorem dayOfYear_bounds (h : 0 ≤ d ∧ d ≤ 146096) :
    (0 ≤ dayOfYear d ∧ dayOfYear d ≤ 365) ∧
      (dayOfYear d = 365 → yearOfEra d % 4 = 3 ∧
        (yearOfEra d % 100 = 99 → yearOfEra d = 399)) := by
  have hyear : 365 * yearOfEra d ≤ d - d / 1460 + d / 36524 - d / 146096 ∧
      d - d / 1460 + d / 36524 - d / 146096 ≤ 365 * yearOfEra d + 364 := by
    unfold yearOfEra
    omega
  -- How many leap days were left out is known case by case, and the rest is linear.
  have hcenturies : d / 36524 = 0 ∨ d / 36524 = 1 ∨ d / 36524 = 2 ∨ d / 36524 = 3 ∨
      d / 36524 = 4 := by omega
  have hlast : d / 146096 = 0 ∨ d / 146096 = 1 := by omega
  obtain ⟨hlow, hhigh⟩ := yearOfEra_bounds h
  have hskipped : yearOfEra d / 100 = 0 ∨ yearOfEra d / 100 = 1 ∨ yearOfEra d / 100 = 2 ∨
      yearOfEra d / 100 = 3 := by omega
  unfold dayOfYear
  generalize yearOfEra d = y at *
  rcases hcenturies with hc | hc | hc | hc | hc <;> rcases hlast with hl | hl <;>
    rcases hskipped with hs | hs | hs | hs <;> rw [hc, hl] at hyear <;> rw [hs] <;> omega

/-- The date of a day has the month of the era's year, but January and February are in the next
year of the calendar. -/
theorem exists_dateOfDays (days : Int) : ∃ era d month : Int, (0 ≤ d ∧ d ≤ 146096) ∧
    (0 ≤ month ∧ month ≤ 11) ∧ days = era * 146097 + d - 719468 ∧
    month = (5 * dayOfYear d + 2) / 153 ∧
    dateOfDays days =
      (yearOfEra d + era * 400 + (if month < 10 then 0 else 1),
        if month < 10 then month + 3 else month - 9,
        dayOfYear d - (153 * month + 2) / 5 + 1) := by
  have hday := (dayOfYear_bounds (d := (days + 719468) % 146097) (by omega)).1
  have hmonth : 0 ≤ (5 * dayOfYear ((days + 719468) % 146097) + 2) / 153 ∧
      (5 * dayOfYear ((days + 719468) % 146097) + 2) / 153 ≤ 11 := by omega
  refine ⟨(days + 719468) / 146097, (days + 719468) % 146097, _, by omega, hmonth, by omega, rfl,
    ?_⟩
  have hera : (days + 719468).fdiv 146097 = (days + 719468) / 146097 :=
    Int.fdiv_eq_ediv_of_nonneg _ (by decide)
  have hrest : days + 719468 - (days + 719468) / 146097 * 146097 =
      (days + 719468) % 146097 := by omega
  have hyear : ∀ year month : Int, 0 ≤ month ∧ month ≤ 11 →
      (if (if month < 10 then month + 3 else month - 9) ≤ 2 then year + 1 else year) =
        year + (if month < 10 then 0 else 1) := by
    intro year month hmonth
    split <;> split <;> omega
  unfold dateOfDays
  dsimp only
  rw [hera, hrest, ← yearOfEra, ← dayOfYear, hyear _ _ hmonth]

theorem dateOfDays_isDate (days : Int) {year month day : Int}
    (h : dateOfDays days = (year, month, day)) :
    (1 ≤ month ∧ month ≤ 12) ∧ 1 ≤ day ∧ day ≤ daysInMonth year month := by
  obtain ⟨era, d, fromMarch, hd, hmonth, -, hfromMarch, hdate⟩ := exists_dateOfDays days
  rw [hdate, Prod.mk.injEq, Prod.mk.injEq] at h
  obtain ⟨rfl, rfl, rfl⟩ := h
  obtain ⟨⟨hlow, hhigh⟩, hleap⟩ := dayOfYear_bounds hd
  generalize dayOfYear d = doy at *
  refine ⟨by split <;> omega, by omega, ?_⟩
  by_cases hfebruary : fromMarch = 11
  · subst hfebruary
    change doy - (153 * 11 + 2) / 5 + 1 ≤
      if isLeapYear (yearOfEra d + era * 400 + 1) then 29 else 28
    split
    · omega
    · next hcommon =>
      -- The day that only leap years have is the last of a year that starts in March.
      have hnot : doy ≠ 365 := by
        intro hlast
        obtain ⟨hfour, hcentury⟩ := hleap hlast
        apply hcommon
        simp only [isLeapYear, Bool.and_eq_true, Bool.or_eq_true, bne_iff_ne, beq_iff_eq]
        omega
      omega
  · have hmonths : fromMarch = 0 ∨ fromMarch = 1 ∨ fromMarch = 2 ∨ fromMarch = 3 ∨
        fromMarch = 4 ∨ fromMarch = 5 ∨ fromMarch = 6 ∨ fromMarch = 7 ∨ fromMarch = 8 ∨
        fromMarch = 9 ∨ fromMarch = 10 := by omega
    rcases hmonths with h | h | h | h | h | h | h | h | h | h | h <;> subst h <;>
      simp [daysInMonth] <;> omega

theorem daysInMonth_le (year month : Int) : daysInMonth year month ≤ 31 := by
  unfold daysInMonth
  split
  · split <;> decide
  · split <;> decide

/-- Counting the days of a date undoes the search for it. -/
theorem daysOfDate_dateOfDays (days : Int) :
    daysOfDate (dateOfDays days).1 (dateOfDays days).2.1 (dateOfDays days).2.2 = days := by
  obtain ⟨era, d, fromMarch, hd, hmonth, hdays, hfromMarch, hdate⟩ := exists_dateOfDays days
  obtain ⟨hlow, hhigh⟩ := yearOfEra_bounds hd
  have hmonths : ((if fromMarch < 10 then fromMarch + 3 else fromMarch - 9) + 9) % 12 =
      fromMarch := by split <;> omega
  rw [hdate]
  unfold daysOfDate
  dsimp only
  rw [hmonths]
  have hyear : (if (if fromMarch < 10 then fromMarch + 3 else fromMarch - 9) ≤ 2 then
      yearOfEra d + era * 400 + (if fromMarch < 10 then 0 else 1) - 1 else
      yearOfEra d + era * 400 + (if fromMarch < 10 then 0 else 1)) =
      yearOfEra d + era * 400 := by
    split <;> split at * <;> omega
  have hera : (yearOfEra d + era * 400).fdiv 400 = era := by
    rw [Int.fdiv_eq_ediv_of_nonneg _ (by decide)]
    omega
  rw [hyear, hera]
  have hday : d = 365 * yearOfEra d + yearOfEra d / 4 - yearOfEra d / 100 + dayOfYear d := by
    unfold dayOfYear
    omega
  have hback : yearOfEra d + era * 400 - era * 400 = yearOfEra d := by omega
  rw [hback]
  omega

end Calendar
/-! ## Digits -/

section Digits

variable {width most n : Nat} {c : Char} {rest : List Char}

theorem isDigit_of_mem_padded (h : c ∈ padded width n) : c.isDigit = true := by
  rw [padded, Nat.toList_repr] at h
  rcases List.mem_append.1 h with h | h
  · rw [(List.mem_replicate.1 h).2]
    decide
  · exact Json.isDigit_of_mem_toDigits h

theorem padded_ne_nil : padded width n ≠ [] := by
  rw [padded, Nat.toList_repr]
  exact List.append_ne_nil_of_right_ne_nil _ Nat.toDigits_ne_nil

theorem exists_padded_eq_cons (width n : Nat) :
    ∃ c cs, padded width n = c :: cs ∧ c.isDigit = true := by
  obtain ⟨c, cs, hcs⟩ := List.exists_cons_of_ne_nil (padded_ne_nil : padded width n ≠ [])
  exact ⟨c, cs, hcs, isDigit_of_mem_padded (hcs ▸ List.mem_cons_self : c ∈ padded width n)⟩

theorem length_padded (hwidth : 0 < width) (h : n < 10 ^ width) :
    (padded width n).length = width := by
  have hlength := (Nat.length_toDigits_le_iff (by decide : 1 < 10) hwidth).2 h
  rw [padded, Nat.toList_repr, List.length_append, List.length_replicate]
  omega

theorem digitsValue_padded : Json.digitsValue (padded width n) = n := by
  have hzeros : ∀ k,
      (List.replicate k '0').foldl (fun n c => 10 * n + (c.toNat - '0'.toNat)) 0 = 0 := by
    intro k
    induction k with
    | zero => rfl
    | succ k ih =>
      rw [List.replicate_succ, List.foldl_cons]
      exact ih
  change (padded width n).foldl (fun n c => 10 * n + (c.toNat - '0'.toNat)) 0 = n
  rw [padded, List.foldl_append, hzeros, Nat.toList_repr]
  exact Json.digitsValue_toDigits n

theorem isBlank_of_isDigit (h : c.isDigit = true) : Text.isBlank c = false := by
  have digits : ∀ n ∈ List.range 58, 48 ≤ n → Text.isBlank (Char.ofNat n) = false := by
    decide
  obtain ⟨hlow, hhigh⟩ := Char.isDigit_iff_toNat.1 h
  have hdigit := digits c.toNat (List.mem_range.2 (Nat.lt_succ_of_le hhigh)) hlow
  rwa [Char.ofNat_toNat] at hdigit

theorem dropBlanks_of_not (h : Text.isBlank c = false) :
    Text.dropBlanks (c :: rest) = c :: rest := by
  rw [Text.dropBlanks, List.dropWhile_cons_of_neg]
  rw [h]
  decide

/-- What cannot go on with digits. -/
def EndsDigits (rest : List Char) : Prop :=
  ∀ c cs, rest = c :: cs → c.isDigit = false

theorem takeWhile_padded (h : EndsDigits rest) :
    (padded width n ++ rest).takeWhile Char.isDigit = padded width n := by
  rw [List.takeWhile_append_of_pos fun _ => isDigit_of_mem_padded]
  cases rest with
  | nil => simp
  | cons c cs => simp [h c cs rfl]

theorem EndsDigits.take (h : EndsDigits rest) (k : Nat) : EndsDigits (rest.take k) := by
  intro c cs hcs
  cases rest with
  | nil => simp at hcs
  | cons d ds =>
    cases k with
    | zero => simp at hcs
    | succ k =>
      rw [List.take_succ_cons, List.cons.injEq] at hcs
      exact hcs.1 ▸ h d ds rfl

theorem dropBlanks_padded : Text.dropBlanks (padded width n ++ rest) = padded width n ++ rest := by
  obtain ⟨c, cs, hcs, hdigit⟩ := exists_padded_eq_cons width n
  rw [hcs, List.cons_append, dropBlanks_of_not (isBlank_of_isDigit hdigit)]

/-- A number is read back if it has all the digits that are read, or no digit follows. -/
theorem readNat_padded (hfits : (padded width n).length ≤ most)
    (h : (padded width n).length = most ∨ EndsDigits rest) :
    readNat most (padded width n ++ rest) = some (n, rest) := by
  obtain ⟨k, rfl⟩ := Nat.exists_eq_add_of_le hfits
  have hends : EndsDigits (rest.take k) := by
    rcases h with hall | hends
    · obtain rfl : k = 0 := by omega
      exact fun c cs hcs => nomatch hcs
    · exact hends.take k
  have hdigits : ((padded width n ++ rest).take ((padded width n).length + k)).takeWhile
      Char.isDigit = padded width n := by
    rw [List.take_length_add_append, takeWhile_padded hends]
  unfold readNat
  simp only [dropBlanks_padded, hdigits, List.isEmpty_eq_false_iff.2 padded_ne_nil,
    List.drop_left]
  exact congrArg (fun n => some (n, rest)) digitsValue_padded

theorem readNat_padded_two (h : n < 100) : readNat 2 (padded 2 n ++ rest) = some (n, rest) := by
  have hlength : (padded 2 n).length = 2 := length_padded (by decide) h
  exact readNat_padded (Nat.le_of_eq hlength) (.inl hlength)

theorem readMark_cons {mark : Char} (h : Text.isBlank mark = false) :
    readMark mark (mark :: rest) = some rest := by
  rw [readMark, dropBlanks_of_not h]
  exact if_pos rfl

/-- A year without a sign has four digits. -/
theorem readYear_padded (h : n < 10000) :
    readYear (padded 4 n ++ rest) = some ((n : Int), rest) := by
  have hlength : (padded 4 n).length = 4 := length_padded (by decide) h
  have hread : readNat 4 (padded 4 n ++ rest) = some (n, rest) :=
    readNat_padded (Nat.le_of_eq hlength) (.inl hlength)
  obtain ⟨c, cs, hcs, hdigit⟩ := exists_padded_eq_cons 4 n
  unfold readYear
  rw [dropBlanks_padded]
  split
  · next heq =>
    rw [hcs] at heq
    cases heq
    cases hdigit
  · next heq =>
    rw [hcs] at heq
    cases heq
    cases hdigit
  · rw [hread]
    rfl

/-- A year is read back in front of a month. -/
theorem readYear_yearChars (year : Int) :
    readYear (yearChars year ++ '-' :: rest) = some (year, '-' :: rest) := by
  have hends : EndsDigits ('-' :: rest) := by
    rintro c cs hcs
    obtain ⟨rfl, -⟩ := List.cons.inj hcs
    decide
  have hall : ∀ n, readNat (padded 4 n ++ '-' :: rest).length (padded 4 n ++ '-' :: rest) =
      some (n, '-' :: rest) := by
    intro n
    refine readNat_padded ?_ (.inr hends)
    rw [List.length_append]
    exact Nat.le_add_right _ _
  have hfirst : ∀ n, (padded 4 n ++ '-' :: rest).head?.any Char.isDigit = true := by
    intro n
    obtain ⟨c, cs, hcs, hdigit⟩ := exists_padded_eq_cons 4 n
    rw [hcs]
    exact hdigit
  unfold yearChars
  split
  · next hshort =>
    have hyear : (year.toNat : Int) = year := Int.toNat_of_nonneg hshort.1
    rw [readYear_padded (by omega), hyear]
  · next hlong =>
    split
    · next hnegative =>
      have hyear : -(year.natAbs : Int) = year := by omega
      rw [List.cons_append, readYear, dropBlanks_of_not (by decide)]
      simp only [hfirst, if_true, hall, Option.map_some, hyear]
    · next hpositive =>
      have hyear : (year.natAbs : Int) = year := by omega
      rw [List.cons_append, readYear, dropBlanks_of_not (by decide)]
      simp only [hfirst, if_true, hall, Option.map_some, hyear]

theorem readFraction_padded {width n : Nat} {c : Char} (hwidth : 0 < width) (hnine : width ≤ 9)
    (h : n < 10 ^ width) (hc : c.isDigit = false) :
    readFraction ('.' :: padded width n ++ c :: rest) =
      some (n * 10 ^ (9 - width), c :: rest) := by
  have hlength := length_padded hwidth h
  have hends : EndsDigits (c :: rest) := by
    rintro d ds hds
    obtain ⟨rfl, -⟩ := List.cons.inj hds
    exact hc
  have hkept : (padded width n).take 9 = padded width n :=
    List.take_of_length_le (by omega)
  have hvalue : (padded width n).foldl (fun n c => 10 * n + (c.toNat - '0'.toNat)) 0 = n :=
    digitsValue_padded
  have hdrop : (padded width n ++ c :: rest).drop width = c :: rest := List.drop_left' hlength
  rw [List.cons_append, readFraction]
  simp only [takeWhile_padded hends, hkept, List.isEmpty_eq_false_iff.2 padded_ne_nil, hvalue,
    hlength, hdrop]
  rfl

/-- The fraction is written with as many digits as it needs, and read back from them. -/
theorem readFraction_fractionChars {nanos : Nat} (h : nanos < 1000000000) :
    readFraction (fractionChars nanos ++ ['Z']) = some (nanos, ['Z']) := by
  unfold fractionChars
  split
  · next hzero =>
    rw [hzero]
    rfl
  split
  · next hmillis =>
    rw [readFraction_padded (by decide) (by decide) (by omega) (by decide)]
    have hvalue : nanos / 1000000 * 10 ^ (9 - 3) = nanos := by omega
    rw [hvalue]
  split
  · next hmicros =>
    rw [readFraction_padded (by decide) (by decide) (by omega) (by decide)]
    have hvalue : nanos / 1000 * 10 ^ (9 - 6) = nanos := by omega
    rw [hvalue]
  · rw [readFraction_padded (by decide) (by decide) h (by decide)]
    have hvalue : nanos * 10 ^ (9 - 9) = nanos := by omega
    rw [hvalue]

end Digits

/-! ## Texts -/

/-- The instants that a clock can show: their year is supported, and they have more than a second
of nanoseconds only in a leap second. -/
def IsSupported (t : Instant) : Prop :=
  isSupportedYear t.fields.1.1 = true ∧
    (t.nanos < 1000000000 ∨ t.nanos < 2000000000 ∧ t.seconds % 60 = 59)

instance (t : Instant) : Decidable t.IsSupported :=
  inferInstanceAs (Decidable (_ ∧ _))

section Texts

variable {t : Instant} {year month day : Int} {hour minute second nanos : Nat}

/-- The fields are a date that is as many days away, and a time of day. The second is 60 only in a
leap second. -/
theorem of_fields (h : t.IsSupported)
    (hfields : t.fields = ((year, month, day), hour, minute, second, nanos)) :
    dateOfDays (t.seconds / 86400) = (year, month, day) ∧
      (hour < 24 ∧ minute < 60 ∧ second ≤ 60 ∧ nanos < 1000000000) ∧
      t.seconds = t.seconds / 86400 * 86400 + (hour * 3600 + minute * 60 +
        (if second = 60 then 59 else second : Nat) : Nat) ∧
      t.nanos = if second = 60 then nanos + 1000000000 else nanos := by
  have hnanos := h.2
  have hdays : t.seconds.fdiv 86400 = t.seconds / 86400 :=
    Int.fdiv_eq_ediv_of_nonneg _ (by decide)
  unfold fields at hfields
  simp only [hdays, Prod.mk.injEq] at hfields
  obtain ⟨hdate, hhour, hminute, hsecond, hrest⟩ := hfields
  refine ⟨hdate, ?_⟩
  by_cases hleap : 1000000000 ≤ t.nanos
  · simp only [hleap, if_true] at hsecond hrest
    have hsixty : second = 60 := by omega
    simp only [hsixty, if_true]
    omega
  · simp only [hleap, if_false] at hsecond hrest
    have hsixty : second ≠ 60 := by omega
    simp only [hsixty, if_false]
    omega

theorem ofFields?_fields (h : t.IsSupported)
    (hfields : t.fields = ((year, month, day), hour, minute, second, nanos)) :
    ofFields? year month.toNat day.toNat hour minute second nanos 0 = some t := by
  obtain ⟨hdate, htime, hseconds, hnanos⟩ := of_fields h hfields
  obtain ⟨hmonth, hday⟩ := dateOfDays_isDate _ hdate
  have hcount := daysOfDate_dateOfDays (t.seconds / 86400)
  rw [hdate] at hcount
  have hmonth' : (month.toNat : Int) = month := Int.toNat_of_nonneg (by omega)
  have hday' : (day.toNat : Int) = day := Int.toNat_of_nonneg (by omega)
  have hyear : isSupportedYear year = true := by
    have hsupported := h.1
    rwa [hfields] at hsupported
  have hisDate : (isSupportedYear year && decide (1 ≤ month) && decide (month ≤ 12) &&
      decide (1 ≤ day) && decide (day ≤ daysInMonth year month)) = true := by
    simp [hyear, hmonth, hday]
  have hvalue : (⟨t.seconds / 86400 * 86400 + ((hour : Int) * 3600 + (minute : Int) * 60 +
      ((if second = 60 then 59 else second : Nat) : Int)) - 0,
      if second = 60 then nanos + 1000000000 else nanos⟩ : Instant) = t := by
    rw [← hnanos]
    congr 1
    omega
  unfold ofFields?
  simp only [hmonth', hday', hisDate, htime, decide_true, Bool.and_self, Bool.true_and, hcount]
  rw [hvalue, h.1]
  rfl

theorem ofChars?_toChars (h : t.IsSupported) : ofChars? t.toChars = some t := by
  obtain ⟨year, month, day, hour, minute, second, nanos, hfields⟩ :
      ∃ year month day hour minute second nanos,
        t.fields = ((year, month, day), hour, minute, second, nanos) := ⟨_, _, _, _, _, _, _, rfl⟩
  obtain ⟨hdate, ⟨hhour, hminute, hsecond, hnanos⟩, -⟩ := of_fields h hfields
  obtain ⟨hmonth, hday⟩ := dateOfDays_isDate _ hdate
  have hlast := daysInMonth_le year month
  have hzone : readOffset (Text.dropBlanks ['Z']) = some (0, []) := by decide
  unfold toChars
  rw [hfields]
  simp only [List.append_assoc, List.cons_append, ofChars?, Option.bind_eq_bind, Option.bind_some,
    readYear_yearChars, readMark_cons (show Text.isBlank '-' = false by decide),
    readMark_cons (show Text.isBlank ':' = false by decide),
    readNat_padded_two (show month.toNat < 100 by omega),
    readNat_padded_two (show day.toNat < 100 by omega),
    readNat_padded_two (show hour < 100 by omega),
    readNat_padded_two (show minute < 100 by omega),
    readNat_padded_two (show second < 100 by omega), readFraction_fractionChars hnanos, hzone]
  exact ofFields?_fields h hfields

/-- A supported instant is read back from its text. -/
theorem ofText?_toText (h : t.IsSupported) : ofText? t.toText = some t := by
  rw [ofText?, toText, String.toList_ofList, ofChars?_toChars h]

end Texts

/-! ## What is read -/

section Reading

variable {cs rest : List Char} {nanos : Nat} {offset : Int}

theorem foldl_digits_lt (digits : List Char) (h : ∀ c ∈ digits, c.isDigit = true) (n : Nat) :
    digits.foldl (fun n c => 10 * n + (c.toNat - '0'.toNat)) n < (n + 1) * 10 ^ digits.length := by
  induction digits generalizing n with
  | nil => simp
  | cons c digits ih =>
    have hc : c.toNat - '0'.toNat ≤ 9 := by
      have hdigit := h c List.mem_cons_self
      simp only [Char.isDigit, Bool.and_eq_true, decide_eq_true_eq] at hdigit
      have hhigh : c.toNat ≤ 57 := hdigit.2
      change c.toNat - 48 ≤ 9
      omega
    have hrest := ih (fun c hc => h c (List.mem_cons_of_mem _ hc)) (10 * n + (c.toNat - '0'.toNat))
    rw [List.foldl_cons, List.length_cons, Nat.pow_succ]
    refine Nat.lt_of_lt_of_le hrest ?_
    calc (10 * n + (c.toNat - '0'.toNat) + 1) * 10 ^ digits.length
        ≤ ((n + 1) * 10) * 10 ^ digits.length := Nat.mul_le_mul_right _ (by omega)
      _ = (n + 1) * (10 ^ digits.length * 10) := by
        rw [Nat.mul_assoc, Nat.mul_comm 10]

theorem of_readFraction (h : readFraction cs = some (nanos, rest)) : nanos < 1000000000 := by
  unfold readFraction at h
  split at h
  · next cs =>
    dsimp only at h
    split at h
    · cases h
    · simp only [Option.some.injEq, Prod.mk.injEq] at h
      obtain ⟨rfl, -⟩ := h
      have hdigits : ∀ c ∈ (cs.takeWhile Char.isDigit).take 9, c.isDigit = true :=
        fun c hc => List.all_eq_true.1 List.all_takeWhile c (List.mem_of_mem_take hc)
      have hlength : ((cs.takeWhile Char.isDigit).take 9).length ≤ 9 := List.length_take_le ..
      generalize (cs.takeWhile Char.isDigit).take 9 = kept at *
      have hlt := foldl_digits_lt kept hdigits 0
      rw [Nat.zero_add, Nat.one_mul] at hlt
      have hpow : 10 ^ kept.length * 10 ^ (9 - kept.length) = 10 ^ 9 := by
        rw [← Nat.pow_add]
        congr 1
        omega
      calc _ < 10 ^ kept.length * 10 ^ (9 - kept.length) :=
            Nat.mul_lt_mul_of_pos_right hlt (Nat.pow_pos (by decide))
        _ = 1000000000 := hpow
  · cases h
    decide

/-- Offsets are whole minutes. -/
theorem of_readOffset (h : readOffset cs = some (offset, rest)) : offset % 60 = 0 := by
  unfold readOffset at h
  dsimp only at h
  grind

theorem isSupported_of_ofFields? {year month day : Int} {hour minute second nanos : Nat}
    {t : Instant} (hnanos : nanos < 1000000000) (hoffset : offset % 60 = 0)
    (h : ofFields? year month day hour minute second nanos offset = some t) : t.IsSupported := by
  unfold ofFields? at h
  dsimp only at h
  split at h
  · rw [Option.ite_none_right_eq_some, Option.some.injEq] at h
    obtain ⟨hyear, rfl⟩ := h
    refine ⟨hyear, ?_⟩
    by_cases hleap : second = 60
    · simp only [hleap, if_true]
      omega
    · simp only [hleap, if_false]
      exact .inl hnanos
  · cases h

/-- An instant that is read is one that a clock can show. -/
theorem isSupported_of_ofText? {s : String} {t : Instant} (h : ofText? s = some t) :
    t.IsSupported := by
  change ofChars? s.toList = some t at h
  unfold ofChars? at h
  iterate 5 obtain ⟨_, -, h⟩ := Option.bind_eq_some_iff.1 h
  dsimp only at h
  -- One case for each sign that may stand between date and time, and one for all others.
  split at h <;> obtain ⟨_, hsign, h⟩ := Option.bind_eq_some_iff.1 h
  case h_4 => cases hsign
  all_goals
    iterate 5 obtain ⟨_, -, h⟩ := Option.bind_eq_some_iff.1 h
    obtain ⟨_, hfraction, h⟩ := Option.bind_eq_some_iff.1 h
    obtain ⟨_, hoffset, h⟩ := Option.bind_eq_some_iff.1 h
    obtain ⟨-, h⟩ := Option.ite_none_right_eq_some.1 h
    exact isSupported_of_ofFields? (of_readFraction hfraction) (of_readOffset hoffset) h

end Reading

end SchemaCodegen.Instant
