import SchemaCodegen.Json.Printer
import SchemaCodegen.Json.Reader

/-!
# Reading what was written

The reader gives back every value that the printer writes, over several lines (`read_pretty`) or on
one (`read_compact`), as long as the value is one that can be written: its integers have 64 bits
and no part of it stands for a fault. So different values are written differently. Both layouts
spell a value with some space between its parts (`Spells`), and the parts are taken up by their
readers: an escaped character by `readEscape`, a quoted string by `readString`, an integer by
`readNumber`, and what follows a part cannot go on with it.
-/

namespace SchemaCodegen.Json

/-! ## Strings -/

/-- A character that is written as a code is read back. -/
theorem readEscape_code {n : Nat} (h : n < 0x20) (rest : List Char) :
    readEscape ('u' :: '0' :: '0' :: Text.hexDigit (n / 16) :: Text.hexDigit (n % 16) :: rest) =
      .ok (.char (Char.ofNat n), rest) := by
  have hsize (c : Char) : 1 ≤ c.utf8Size := c.utf8Size_pos
  have hbytes : ¬ bytesUpToFour
      ('0' :: '0' :: Text.hexDigit (n / 16) :: Text.hexDigit (n % 16) :: rest) < 4 := by
    have h1 := hsize (Text.hexDigit (n / 16))
    have h2 := hsize (Text.hexDigit (n % 16))
    have h0 := hsize '0'
    simp only [bytesUpToFour, List.take_succ_cons, List.take_zero, List.foldl_cons, List.foldl_nil]
    omega
  have hzero : Text.hexValue? '0' = some 0 := by decide
  have hunit : readUnit
      ('0' :: '0' :: Text.hexDigit (n / 16) :: Text.hexDigit (n % 16) :: rest) =
        .ok (n, rest) := by
    rw [readUnit, if_neg hbytes]
    simp only [List.take_succ_cons, List.take_zero, List.mapM_cons, List.mapM_nil, hzero,
      Text.hexValue?_hexDigit (show n / 16 < 16 by omega),
      Text.hexValue?_hexDigit (show n % 16 < 16 by omega)]
    change Except.ok (((0 * 16 + 0) * 16 + n / 16) * 16 + n % 16, rest) = _
    rw [show ((0 * 16 + 0) * 16 + n / 16) * 16 + n % 16 = n by omega]
  have hhigh : isHighHalf n = false := by
    simp [isHighHalf]
    omega
  have hlow : isLowHalf n = false := by
    simp [isLowHalf]
    omega
  rw [readEscape, hunit]
  change (if isHighHalf n = true then _ else _) = _
  rw [hhigh, hlow]
  rfl

/-- One written character is read back. -/
theorem readString_escapeChar (fuel : Nat) (content : List Char) (c : Char) (rest : List Char) :
    readString (fuel + 1) content true (escapeChar c ++ rest) =
      readString fuel (c :: content) true rest := by
  unfold escapeChar
  split
  · next h => subst h; rfl
  split
  · next h => subst h; rfl
  split
  · next h => subst h; rfl
  split
  · next h => subst h; rfl
  split
  · next h => subst h; rfl
  split
  · next h => subst h; rfl
  split
  · next h => subst h; rfl
  split
  · next h =>
    change readString (fuel + 1) content true ('\\' :: 'u' :: '0' :: '0' ::
      Text.hexDigit (c.toNat / 16) :: Text.hexDigit (c.toNat % 16) :: rest) = _
    rw [readString, readEscape_code h, Char.ofNat_toNat]
  · next hquote hslash _ _ _ _ _ h =>
    rw [List.singleton_append, readString.eq_5 _ _ _ _ _ hquote hslash, if_neg h]

theorem readString_escaped (content cs rest : List Char) {fuel : Nat} (h : cs.length < fuel) :
    readString fuel content true (cs.flatMap escapeChar ++ '"' :: rest) =
      (.ok (String.ofList (content.reverse ++ cs)), some rest) := by
  induction cs generalizing content fuel with
  | nil =>
    obtain ⟨fuel, rfl⟩ := Nat.exists_eq_succ_of_ne_zero (Nat.ne_of_gt h)
    rw [List.append_nil]
    rfl
  | cons c cs ih =>
    obtain ⟨fuel, rfl⟩ := Nat.exists_eq_succ_of_ne_zero (Nat.ne_of_gt (Nat.zero_lt_of_lt h))
    rw [List.flatMap_cons, List.append_assoc, readString_escapeChar,
      ih _ (Nat.lt_of_succ_lt_succ h), List.reverse_cons, List.append_assoc,
      List.singleton_append]

theorem length_escapeChar_pos (c : Char) : 1 ≤ (escapeChar c).length := by
  unfold escapeChar
  repeat' split
  all_goals simp

/-- A quoted string is read back behind its opening quote. -/
theorem readString_quoted (s : String) (rest : List Char) :
    readString ((s.toList.flatMap escapeChar ++ '"' :: rest).length + 1) [] true
      (s.toList.flatMap escapeChar ++ '"' :: rest) = (.ok s, some rest) := by
  have hlength : ∀ cs : List Char, cs.length ≤ (cs.flatMap escapeChar).length := by
    intro cs
    induction cs with
    | nil => exact Nat.le_refl 0
    | cons c cs ih =>
      have hc := length_escapeChar_pos c
      rw [List.flatMap_cons, List.length_append, List.length_cons]
      omega
  rw [readString_escaped]
  · rw [List.reverse_nil, List.nil_append, String.ofList_toList]
  · have := hlength s.toList
    rw [List.length_append]
    omega

/-! ## Integers -/

/-- What cannot go on with a number. -/
def EndsNumber (rest : List Char) : Prop :=
  ∀ c cs, rest = c :: cs → c.isDigit = false ∧ c ≠ '.' ∧ c ≠ 'e' ∧ c ≠ 'E'

theorem isDigit_of_mem_toDigits {n : Nat} {c : Char} (h : c ∈ Nat.toDigits 10 n) :
    c.isDigit = true :=
  Nat.isDigit_of_mem_toDigits (by decide) (by decide) h

/-- Only zero is written with a zero in front. -/
theorem head?_toDigits {n : Nat} (h : 0 < n) : (Nat.toDigits 10 n).head? ≠ some '0' := by
  induction n using Nat.strongRecOn with
  | ind n ih =>
    by_cases hlt : n < 10
    · have digits : ∀ i ∈ List.range 10, 0 < i → ([Nat.digitChar i].head? ≠ some '0') := by decide
      rw [Nat.toDigits_of_lt_base hlt]
      exact digits n (List.mem_range.2 hlt) h
    · have hle : 10 ≤ n := Nat.le_of_not_lt hlt
      rw [Nat.toDigits_of_base_le (by decide) hle, List.head?_append]
      have hfirst := ih (n / 10) (by omega) (by omega)
      cases hdigits : Nat.toDigits 10 (n / 10) with
      | nil => exact absurd hdigits Nat.toDigits_ne_nil
      | cons c cs =>
        rw [hdigits] at hfirst
        exact hfirst

theorem readWhole_toDigits (n : Nat) {rest : List Char} (h : EndsNumber rest) :
    readWhole (Nat.toDigits 10 n ++ rest) = .ok (Nat.toDigits 10 n, rest) := by
  have hdigits : ∀ c ∈ Nat.toDigits 10 n, c.isDigit = true :=
    fun _ => isDigit_of_mem_toDigits
  have htake : (Nat.toDigits 10 n ++ rest).takeWhile Char.isDigit = Nat.toDigits 10 n := by
    rw [List.takeWhile_append_of_pos hdigits]
    cases rest with
    | nil => simp
    | cons c cs => simp [(h c cs rfl).1]
  have hdrop : (Nat.toDigits 10 n ++ rest).dropWhile Char.isDigit = rest := by
    rw [List.dropWhile_append_of_pos hdigits]
    cases rest with
    | nil => rfl
    | cons c cs => simp [(h c cs rfl).1]
  have hread : readDigits (Nat.toDigits 10 n ++ rest) = .ok (Nat.toDigits 10 n, rest) := by
    have hne : Nat.toDigits 10 n ≠ [] := Nat.toDigits_ne_nil
    revert hne hdigits htake hdrop
    generalize Nat.toDigits 10 n = digits
    intro hdigits htake hdrop hne
    cases digits with
    | nil => exact absurd rfl hne
    | cons c cs =>
      rw [readDigits.eq_def]
      simp only [List.cons_append] at htake hdrop ⊢
      rw [if_pos (hdigits c List.mem_cons_self), htake, hdrop]
  rw [readWhole, hread]
  simp only [bind, Except.bind]
  split
  · next c cs hzero =>
    by_cases hn : 0 < n
    · exact absurd (by rw [hzero]; rfl) (head?_toDigits hn)
    · have : n = 0 := by omega
      subst this
      cases hzero
  · rfl

theorem readUnsigned_toDigits (negative : Bool) (n : Nat) {rest : List Char}
    (h : EndsNumber rest) :
    readUnsigned negative (Nat.toDigits 10 n ++ rest) =
      .ok (integerValue negative (Nat.toDigits 10 n), rest) := by
  rw [readUnsigned, readWhole_toDigits n h]
  cases rest with
  | nil => rfl
  | cons c cs =>
    obtain ⟨-, hdot, hlower, hupper⟩ := h c cs rfl
    have hfraction : readFraction (c :: cs) = .ok (none, c :: cs) := by
      rw [readFraction.eq_def]
      split
      · next heq =>
        cases heq
        exact absurd rfl hdot
      · rfl
    simp only [bind, Except.bind, hfraction]
    split
    · next heq => exact absurd (List.cons.inj heq).1 hlower
    · next heq => exact absurd (List.cons.inj heq).1 hupper
    · rfl

theorem digitsValue_toDigits (n : Nat) : digitsValue (Nat.toDigits 10 n) = n :=
  Nat.ofDigitChars_ten_toDigits

/-- The integers that have 64 bits, with or without a sign. -/
def Has64Bits (n : Int) : Prop :=
  -(1 <<< 63 : Nat) ≤ n ∧ n < (1 <<< 64 : Nat)

theorem integerValue_toNat {n : Int} (h : Has64Bits n) (hn : 0 ≤ n) :
    integerValue false (Nat.toDigits 10 n.toNat) = .number (.integer n) := by
  have hlt : n.toNat < 1 <<< 64 := by
    have := h.2
    omega
  rw [integerValue, digitsValue_toDigits, if_neg (by decide), if_pos hlt, Int.toNat_of_nonneg hn]

theorem integerValue_neg {n : Int} (h : Has64Bits n) (hn : n < 0) :
    integerValue true (Nat.toDigits 10 (-n).toNat) = .number (.integer n) := by
  have hfits : (0 < (-n).toNat && (-n).toNat ≤ 1 <<< 63) = true := by
    have := h.1
    simp only [Bool.and_eq_true, decide_eq_true_eq]
    omega
  rw [integerValue, digitsValue_toDigits, if_pos rfl, if_pos hfits,
    Int.toNat_of_nonneg (by omega), Int.neg_neg]

/-- The characters of an integer are a sign, if it is negative, and digits. -/
theorem numberChars_integer (n : Int) : numberChars (.integer n) =
    if 0 ≤ n then Nat.toDigits 10 n.toNat else '-' :: Nat.toDigits 10 (-n).toNat := by
  rw [numberChars, Int.toString_eq_repr, Int.repr_eq_if]
  split
  · exact Nat.toList_repr
  · rw [String.toList_append, Nat.toList_repr]
    rfl

/-- A number starts with a sign or a digit. -/
theorem exists_numberChars_eq (n : Int) :
    ∃ c cs, numberChars (.integer n) = c :: cs ∧ (c = '-' ∨ c.isDigit = true) := by
  rw [numberChars_integer]
  split
  · cases hdigits : Nat.toDigits 10 n.toNat with
    | nil => exact absurd hdigits Nat.toDigits_ne_nil
    | cons c cs =>
      refine ⟨c, cs, rfl, .inr (isDigit_of_mem_toDigits (n := n.toNat) ?_)⟩
      rw [hdigits]
      exact List.mem_cons_self
  · exact ⟨'-', _, rfl, .inl rfl⟩

theorem readNumber_integer {n : Int} (h : Has64Bits n) {rest : List Char}
    (hrest : EndsNumber rest) :
    readNumber (numberChars (.integer n) ++ rest) = (.number (.integer n), some rest) := by
  rw [numberChars_integer]
  by_cases hn : 0 ≤ n
  · rw [if_pos hn, readNumber, readUnsigned_toDigits false _ hrest, integerValue_toNat h hn]
    intro cs hcs
    cases hdigits : Nat.toDigits 10 n.toNat with
    | nil => exact absurd hdigits Nat.toDigits_ne_nil
    | cons c digits =>
      have hc : c.isDigit = true := isDigit_of_mem_toDigits (n := n.toNat) (by simp [hdigits])
      rw [hdigits] at hcs
      rw [(List.cons.inj hcs).1] at hc
      cases hc
  · rw [if_neg hn, List.cons_append, readNumber]
    simp only [readUnsigned_toDigits true _ hrest, integerValue_neg h (Int.not_le.1 hn)]

/-! ## Values -/

mutual

/-- A value that can be written: its integers have 64 bits, and no part of it is a fraction or
stands for a fault. -/
def Writable : Json → Prop
  | .null | .bool _ | .text _ => True
  | .number (.integer n) => Has64Bits n
  | .number (.decimal _ _ _) => False
  | .array items => WritableItems items
  | .object members => WritableMembers members
  | .flawed _ | .unread _ => False

def WritableItems : List Json → Prop
  | [] => True
  | item :: items => Writable item ∧ WritableItems items

def WritableMembers : List (String × Json) → Prop
  | [] => True
  | (_, value) :: members => Writable value ∧ WritableMembers members

end

theorem writableItems_iff {items : List Json} :
    WritableItems items ↔ ∀ item ∈ items, Writable item := by
  induction items with
  | nil => simp [WritableItems]
  | cons item items ih => simp [WritableItems, ih]

theorem writableMembers_iff {members : List (String × Json)} :
    WritableMembers members ↔ ∀ m ∈ members, Writable m.2 := by
  induction members with
  | nil => simp [WritableMembers]
  | cons member members ih => simp [WritableMembers, ih]

theorem writableMembers_append {members more : List (String × Json)} :
    WritableMembers (members ++ more) ↔ WritableMembers members ∧ WritableMembers more := by
  simp only [writableMembers_iff, List.mem_append, or_imp, forall_and]

mutual

/-- A value that can be written has no part that a reader stumbles over. -/
theorem skipFault_of_writable (v : Json) (h : Writable v) : v.skipFault = none := by
  match v, h with
  | .null, _ => rfl
  | .bool _, _ => rfl
  | .number _, _ => rfl
  | .text _, _ => rfl
  | .array items, h => exact skipItemsFault_of_writable items h
  | .object members, h => exact skipMembersFault_of_writable members h

theorem skipItemsFault_of_writable (items : List Json) (h : WritableItems items) :
    skipItemsFault items = none := by
  match items, h with
  | [], _ => rfl
  | item :: items, ⟨hitem, hitems⟩ =>
    rw [skipItemsFault, skipFault_of_writable item hitem, skipItemsFault_of_writable items hitems]
    rfl

theorem skipMembersFault_of_writable (members : List (String × Json))
    (h : WritableMembers members) : skipMembersFault members = none := by
  match members, h with
  | [], _ => rfl
  | (_, value) :: members, ⟨hvalue, hmembers⟩ =>
    rw [skipMembersFault, skipFault_of_writable value hvalue,
      skipMembersFault_of_writable members hmembers]
    rfl

end

theorem skipSpace_of_not {c : Char} (h : isSpace c = false) (cs : List Char) :
    skipSpace (c :: cs) = c :: cs := by
  rw [skipSpace, List.dropWhile_cons_of_neg (by rw [h]; exact Bool.false_ne_true)]

/-- What may stand between the parts of a value. -/
def IsGap (gap : List Char) : Prop :=
  ∀ c ∈ gap, isSpace c = true

theorem isGap_nil : IsGap [] := fun _ h => nomatch h

theorem isGap_indent (level : Nat) : IsGap (indent level) := by
  intro c hc
  rcases List.mem_cons.1 hc with rfl | hc
  · rfl
  · rw [List.eq_of_mem_replicate hc]
    rfl

theorem skipSpace_gap {gap : List Char} (h : IsGap gap) (cs : List Char) :
    skipSpace (gap ++ cs) = skipSpace cs :=
  List.dropWhile_append_of_pos h

/-- A character with which the text of a value may start. -/
def StartsValue (c : Char) : Prop :=
  isSpace c = false ∧ c ≠ ']'

theorem ne_of_startsNumber {c d : Char} (h : c = '-' ∨ c.isDigit = true) (hminus : d ≠ '-')
    (hdigit : d.isDigit = false) : c ≠ d := by
  rintro rfl
  rcases h with h | h
  · exact hminus h
  · rw [h] at hdigit
    cases hdigit

theorem startsValue_of_isDigit {c : Char} (h : c = '-' ∨ c.isDigit = true) : StartsValue c := by
  have hne : ∀ d ∈ [' ', '\t', '\n', '\r', ']'], c ≠ d := by
    intro d hd
    have hother : d ≠ '-' ∧ d.isDigit = false := by
      simp only [List.mem_cons, List.not_mem_nil, or_false] at hd
      rcases hd with rfl | rfl | rfl | rfl | rfl <;> decide
    exact ne_of_startsNumber h hother.1 hother.2
  simp only [List.mem_cons, List.not_mem_nil, or_false, forall_eq_or_imp, forall_eq] at hne
  simpa [StartsValue, isSpace, and_assoc] using hne

mutual

/-- The text spells the value, with any gaps in front of items, names and the values of members. -/
def Spells : Json → List Char → Prop
  | .null, cs => cs = "null".toList
  | .bool value, cs => cs = (if value then "true" else "false").toList
  | .number (.integer n), cs => Has64Bits n ∧ cs = numberChars (.integer n)
  | .number (.decimal _ _ _), _ => False
  | .text s, cs => cs = quoted s
  | .array items, cs => ∃ inner, cs = '[' :: inner ∧ SpellsItems true items inner
  | .object members, cs => ∃ inner, cs = '{' :: inner ∧ SpellsMembers true members inner
  | .flawed _, _ | .unread _, _ => False

def SpellsItems (isFirst : Bool) : List Json → List Char → Prop
  | [], cs => ∃ gap, IsGap gap ∧ cs = gap ++ [']']
  | item :: items, cs => ∃ gap written rest, IsGap gap ∧ Spells item written ∧
      SpellsItems false items rest ∧ cs = (if isFirst then [] else [',']) ++ gap ++ written ++ rest

def SpellsMembers (isFirst : Bool) : List (String × Json) → List Char → Prop
  | [], cs => ∃ gap, IsGap gap ∧ cs = gap ++ ['}']
  | (name, value) :: members, cs => ∃ gap gap' written rest, IsGap gap ∧ IsGap gap' ∧
      Spells value written ∧ SpellsMembers false members rest ∧
        cs = (if isFirst then [] else [',']) ++ gap ++ quoted name ++ ':' :: gap' ++ written ++ rest

end

theorem exists_of_spells {v : Json} {cs : List Char} (h : Spells v cs) :
    ∃ c rest, cs = c :: rest ∧ StartsValue c := by
  match v, h with
  | .null, h => exact ⟨_, _, h, rfl, by decide⟩
  | .bool true, h => exact ⟨_, _, h, rfl, by decide⟩
  | .bool false, h => exact ⟨_, _, h, rfl, by decide⟩
  | .number (.integer n), h =>
    obtain ⟨c, rest, hchars, hc⟩ := exists_numberChars_eq n
    exact ⟨c, rest, h.2.trans hchars, startsValue_of_isDigit hc⟩
  | .text s, h => exact ⟨_, _, h, rfl, by decide⟩
  | .array _, ⟨_, h, _⟩ => exact ⟨_, _, h, rfl, by decide⟩
  | .object _, ⟨_, h, _⟩ => exact ⟨_, _, h, rfl, by decide⟩

/-- A comma, a bracket or a space ends a number. -/
theorem endsNumber_gap {gap cs : List Char} (h : IsGap gap) (hcs : EndsNumber cs) :
    EndsNumber (gap ++ cs) := by
  rintro c rest heq
  cases gap with
  | nil => exact hcs c rest heq
  | cons space gap =>
    have hspace := h space List.mem_cons_self
    rw [(List.cons.inj heq).1] at hspace
    simp only [isSpace, Bool.or_eq_true, decide_eq_true_eq] at hspace
    rcases hspace with ((rfl | rfl) | rfl) | rfl <;> decide

theorem endsNumber_cons {c : Char} (h : c.isDigit = false ∧ c ≠ '.' ∧ c ≠ 'e' ∧ c ≠ 'E')
    (cs : List Char) : EndsNumber (c :: cs) := by
  rintro c' rest heq
  rwa [← (List.cons.inj heq).1]

theorem endsNumber_of_spellsItems {items : List Json} {cs : List Char}
    (h : SpellsItems false items cs) (rest : List Char) : EndsNumber (cs ++ rest) := by
  match items, h with
  | [], ⟨gap, hgap, heq⟩ =>
    rw [heq, List.append_assoc]
    exact endsNumber_gap hgap (endsNumber_cons (by decide) _)
  | _ :: _, ⟨_, _, _, _, _, _, heq⟩ =>
    rw [heq, List.append_assoc, List.append_assoc, List.append_assoc]
    exact endsNumber_cons (by decide) _

theorem length_pos_of_spellsItems {isFirst : Bool} {items : List Json} {cs : List Char}
    (h : SpellsItems isFirst items cs) : 0 < cs.length := by
  match items, h with
  | [], ⟨gap, _, heq⟩ => simp [heq]
  | _ :: _, ⟨_, _, _, _, hitem, _, heq⟩ =>
    obtain ⟨c, written, rfl, -⟩ := exists_of_spells hitem
    simp only [heq, List.length_append, List.length_cons]
    omega

theorem endsNumber_of_spellsMembers {members : List (String × Json)} {cs : List Char}
    (h : SpellsMembers false members cs) (rest : List Char) : EndsNumber (cs ++ rest) := by
  match members, h with
  | [], ⟨gap, hgap, heq⟩ =>
    rw [heq, List.append_assoc]
    exact endsNumber_gap hgap (endsNumber_cons (by decide) _)
  | (_, _) :: _, ⟨_, _, _, _, _, _, _, _, heq⟩ =>
    rw [heq]
    simp only [List.append_assoc]
    exact endsNumber_cons (by decide) _

theorem readValue_number (fuel : Nat) {c : Char} (h : c = '-' ∨ c.isDigit = true)
    (cs : List Char) : readValue (fuel + 1) (c :: cs) = readNumber (c :: cs) := by
  have hnumber : (c = '-' || c.isDigit) = true := by simpa using h
  rw [readValue, skipSpace_of_not (startsValue_of_isDigit h).1]
  split
  · next heq => cases heq
  · next heq => exact absurd (List.cons.inj heq).1 (ne_of_startsNumber h (by decide) (by decide))
  · next heq => exact absurd (List.cons.inj heq).1 (ne_of_startsNumber h (by decide) (by decide))
  · next heq => exact absurd (List.cons.inj heq).1 (ne_of_startsNumber h (by decide) (by decide))
  · next heq => exact absurd (List.cons.inj heq).1 (ne_of_startsNumber h (by decide) (by decide))
  · next heq => exact absurd (List.cons.inj heq).1 (ne_of_startsNumber h (by decide) (by decide))
  · next heq => exact absurd (List.cons.inj heq).1 (ne_of_startsNumber h (by decide) (by decide))
  · next heq =>
    cases heq
    rw [if_pos hnumber]

theorem readItems_end (fuel : Nat) (isFirst : Bool) {gap : List Char} (h : IsGap gap)
    (rest : List Char) :
    readItems (fuel + 1) isFirst (gap ++ ']' :: rest) = ([], some rest) := by
  rw [readItems, skipSpace_gap h]
  rfl

theorem readItems_item (fuel : Nat) (isFirst : Bool) {gap : List Char} (hgap : IsGap gap) {c : Char}
    (h : StartsValue c) (cs : List Char) :
    readItems (fuel + 1) isFirst ((if isFirst then [] else [',']) ++ (gap ++ c :: cs)) =
      readItem fuel (c :: cs) := by
  have hskip : skipSpace (gap ++ c :: cs) = c :: cs := by
    rw [skipSpace_gap hgap, skipSpace_of_not h.1]
  cases isFirst with
  | true =>
    rw [if_pos rfl, List.nil_append, readItems, hskip]
    split
    · next heq => cases heq
    · next heq => exact absurd (List.cons.inj heq).1 h.2
    · next heq => cases heq; rfl
  | false =>
    rw [if_neg Bool.false_ne_true, List.singleton_append, readItems,
      skipSpace_of_not (by decide)]
    split
    · next heq => cases heq
    · next heq => exact absurd (List.cons.inj heq).1 (by decide)
    · next heq =>
      cases heq
      rw [if_neg Bool.false_ne_true, if_pos rfl, hskip]
      split
      · next heq => cases heq
      · next heq => exact absurd (List.cons.inj heq).1 h.2
      · rfl

theorem readItem_of_readValue {fuel : Nat} {cs rest : List Char} {item : Json}
    {items : List Json} {end? : Option (List Char)}
    (hitem : readValue fuel cs = (item, some rest))
    (hitems : readItems fuel false rest = (items, end?)) :
    readItem (fuel + 1) cs = (item :: items, end?) := by
  rw [readItem, hitem]
  change ((item :: (readItems fuel false rest).1), (readItems fuel false rest).2) = _
  rw [hitems]

theorem readMembers_end (fuel : Nat) (isFirst : Bool) {gap : List Char} (h : IsGap gap)
    (rest : List Char) :
    readMembers (fuel + 1) isFirst (gap ++ '}' :: rest) = ([], some rest) := by
  rw [readMembers, skipSpace_gap h]
  rfl

theorem readMembers_member (fuel : Nat) (isFirst : Bool) {gap : List Char} (h : IsGap gap)
    (cs : List Char) :
    readMembers (fuel + 1) isFirst ((if isFirst then [] else [',']) ++ (gap ++ '"' :: cs)) =
      readMember fuel ('"' :: cs) := by
  have hskip : skipSpace (gap ++ '"' :: cs) = '"' :: cs := by
    rw [skipSpace_gap h, skipSpace_of_not (by decide)]
  cases isFirst with
  | true =>
    rw [if_pos rfl, List.nil_append, readMembers, hskip]
    rfl
  | false =>
    rw [if_neg Bool.false_ne_true, List.singleton_append, readMembers,
      skipSpace_of_not (by decide)]
    split
    · next heq => cases heq
    · next heq => exact absurd (List.cons.inj heq).1 (by decide)
    · next heq =>
      cases heq
      rw [if_neg Bool.false_ne_true, if_pos rfl, hskip]

/-- Space in front of a value does not count. -/
theorem readValue_gap (fuel : Nat) {gap : List Char} (h : IsGap gap) (cs : List Char) :
    readValue fuel (gap ++ cs) = readValue fuel cs := by
  cases fuel with
  | zero => rfl
  | succ fuel => rw [readValue, readValue, skipSpace_gap h]

theorem readMember_of_readValue {fuel : Nat} {name : String} {cs rest : List Char} {value : Json}
    {members : List (String × Json)} {end? : Option (List Char)}
    (hvalue : readValue fuel cs = (value, some rest))
    (hmembers : readMembers fuel false rest = (members, end?)) :
    readMember (fuel + 1) (quoted name ++ ':' :: cs) = ((name, value) :: members, end?) := by
  have hquoted : quoted name ++ ':' :: cs =
      '"' :: (name.toList.flatMap escapeChar ++ '"' :: ':' :: cs) := by
    rw [quoted, List.cons_append, List.append_assoc, List.singleton_append]
  rw [hquoted, readMember, readString_quoted]
  simp only [skipSpace_of_not (show isSpace ':' = false by decide), hvalue, hmembers]

mutual

theorem readValue_of_spells (v : Json) {cs : List Char} (h : Spells v cs) (fuel : Nat)
    (rest : List Char) (hfuel : 2 * cs.length < fuel) (hrest : EndsNumber rest) :
    readValue fuel (cs ++ rest) = (v, some rest) := by
  obtain ⟨fuel, rfl⟩ := Nat.exists_eq_succ_of_ne_zero (Nat.ne_of_gt (Nat.zero_lt_of_lt hfuel))
  match v, h with
  | .null, h =>
    subst h
    rfl
  | .bool true, h =>
    subst h
    rfl
  | .bool false, h =>
    subst h
    rfl
  | .number (.integer n), ⟨hbits, h⟩ =>
    obtain ⟨c, digits, hchars, hc⟩ := exists_numberChars_eq n
    have hread := readNumber_integer hbits hrest
    subst h
    rw [hchars] at hread ⊢
    exact (readValue_number fuel hc (digits ++ rest)).trans hread
  | .text s, h =>
    have hquoted : cs ++ rest = '"' :: (s.toList.flatMap escapeChar ++ '"' :: rest) := by
      rw [h, quoted, List.cons_append, List.append_assoc, List.singleton_append]
    rw [hquoted, readValue, skipSpace_of_not (by decide)]
    simp only [readString_quoted]
  | .array items, ⟨inner, h, hitems⟩ =>
    rw [h, List.length_cons] at hfuel
    have hread := readItems_of_spells items true hitems fuel rest (by omega)
    rw [h, List.cons_append, readValue, skipSpace_of_not (by decide)]
    simp only [hread]
  | .object members, ⟨inner, h, hmembers⟩ =>
    rw [h, List.length_cons] at hfuel
    have hread := readMembers_of_spells members true hmembers fuel rest (by omega)
    rw [h, List.cons_append, readValue, skipSpace_of_not (by decide)]
    simp only [hread]

theorem readItems_of_spells (items : List Json) (isFirst : Bool) {cs : List Char}
    (h : SpellsItems isFirst items cs) (fuel : Nat) (rest : List Char)
    (hfuel : 2 * cs.length < fuel) : readItems fuel isFirst (cs ++ rest) = (items, some rest) := by
  obtain ⟨fuel, rfl⟩ := Nat.exists_eq_succ_of_ne_zero (Nat.ne_of_gt (Nat.zero_lt_of_lt hfuel))
  match items, h with
  | [], ⟨gap, hgap, h⟩ =>
    rw [h, List.append_assoc, List.singleton_append]
    exact readItems_end fuel isFirst hgap rest
  | item :: items, ⟨gap, written, tail, hgap, hitem, hitems, h⟩ =>
    obtain ⟨c, written, rfl, hc⟩ := exists_of_spells hitem
    have htail := length_pos_of_spellsItems hitems
    rw [h] at hfuel ⊢
    simp only [List.length_append, List.length_cons] at hfuel
    obtain ⟨fuel, rfl⟩ := Nat.exists_eq_succ_of_ne_zero (n := fuel) (by omega)
    have hread := readValue_of_spells item hitem fuel (tail ++ rest)
      (by rw [List.length_cons]; omega) (endsNumber_of_spellsItems hitems rest)
    have hreadTail := readItems_of_spells items false hitems fuel rest (by omega)
    simp only [List.append_assoc, List.cons_append] at hread ⊢
    rw [← readItem_of_readValue hread hreadTail]
    exact readItems_item _ isFirst hgap hc _

theorem readMembers_of_spells (members : List (String × Json)) (isFirst : Bool) {cs : List Char}
    (h : SpellsMembers isFirst members cs) (fuel : Nat) (rest : List Char)
    (hfuel : 2 * cs.length < fuel) :
    readMembers fuel isFirst (cs ++ rest) = (members, some rest) := by
  obtain ⟨fuel, rfl⟩ := Nat.exists_eq_succ_of_ne_zero (Nat.ne_of_gt (Nat.zero_lt_of_lt hfuel))
  match members, h with
  | [], ⟨gap, hgap, h⟩ =>
    rw [h, List.append_assoc, List.singleton_append]
    exact readMembers_end fuel isFirst hgap rest
  | (name, value) :: members, ⟨gap, gap', written, tail, hgap, hgap', hvalue, hmembers, h⟩ =>
    rw [h] at hfuel ⊢
    simp only [List.length_append, List.length_cons] at hfuel
    obtain ⟨fuel, rfl⟩ := Nat.exists_eq_succ_of_ne_zero (n := fuel) (by omega)
    have hread := readValue_of_spells value hvalue fuel (tail ++ rest) (by omega)
      (endsNumber_of_spellsMembers hmembers rest)
    have hreadTail := readMembers_of_spells members false hmembers fuel rest (by omega)
    rw [← readValue_gap fuel hgap'] at hread
    simp only [List.append_assoc, List.cons_append]
    rw [← readMember_of_readValue hread hreadTail]
    exact readMembers_member _ isFirst hgap _

end

theorem read_of_spells {v : Json} {cs : List Char} (h : Spells v cs) :
    read (String.ofList cs) = ⟨v, false⟩ := by
  have hread := readValue_of_spells v h (3 * cs.length + 3) [] (by omega)
    (fun c cs hcs => nomatch hcs)
  rw [List.append_nil] at hread
  rw [read, String.toList_ofList, readChars, hread]
  rfl

/-! ## Layouts -/

mutual

theorem spells_prettyChars (level : Nat) (v : Json) (h : Writable v) :
    Spells v (prettyChars level v) := by
  match v, h with
  | .null, _ => rfl
  | .bool _, _ => rfl
  | .number (.integer n), h => exact ⟨h, rfl⟩
  | .text _, _ => rfl
  | .array [], _ => exact ⟨_, rfl, [], isGap_nil, rfl⟩
  | .array (item :: items), h =>
    exact ⟨_, by rw [prettyChars]; rintro ⟨⟩, spells_prettyItems level true (item :: items) h⟩
  | .object [], _ => exact ⟨_, rfl, [], isGap_nil, rfl⟩
  | .object (member :: members), h =>
    exact ⟨_, by rw [prettyChars]; rintro ⟨⟩, spells_prettyMembers level true (member :: members) h⟩

theorem spells_prettyItems (level : Nat) (isFirst : Bool) (items : List Json)
    (h : WritableItems items) : SpellsItems isFirst items (prettyItems level isFirst items) := by
  match items, h with
  | [], _ => exact ⟨_, isGap_indent level, rfl⟩
  | item :: items, ⟨hitem, hitems⟩ =>
    exact ⟨_, _, _, isGap_indent (level + 1), spells_prettyChars (level + 1) item hitem,
      spells_prettyItems level false items hitems, by rw [prettyItems]⟩

theorem spells_prettyMembers (level : Nat) (isFirst : Bool) (members : List (String × Json))
    (h : WritableMembers members) :
    SpellsMembers isFirst members (prettyMembers level isFirst members) := by
  match members, h with
  | [], _ => exact ⟨_, isGap_indent level, rfl⟩
  | (name, value) :: members, ⟨hvalue, hmembers⟩ =>
    refine ⟨_, [' '], _, _, isGap_indent (level + 1), ?_,
      spells_prettyChars (level + 1) value hvalue,
      spells_prettyMembers level false members hmembers, ?_⟩
    · intro c hc
      rw [List.mem_singleton.1 hc]
      rfl
    · rw [prettyMembers]
      simp only [List.append_assoc, List.cons_append, List.nil_append]

end

mutual

theorem spells_compactChars (v : Json) (h : Writable v) : Spells v (compactChars v) := by
  match v, h with
  | .null, _ => rfl
  | .bool _, _ => rfl
  | .number (.integer n), h => exact ⟨h, rfl⟩
  | .text _, _ => rfl
  | .array items, h => exact ⟨_, rfl, spells_compactItems true items h⟩
  | .object members, h => exact ⟨_, rfl, spells_compactMembers true members h⟩

theorem spells_compactItems (isFirst : Bool) (items : List Json) (h : WritableItems items) :
    SpellsItems isFirst items (compactItems isFirst items) := by
  match items, h with
  | [], _ => exact ⟨[], isGap_nil, rfl⟩
  | item :: items, ⟨hitem, hitems⟩ =>
    exact ⟨[], _, _, isGap_nil, spells_compactChars item hitem,
      spells_compactItems false items hitems, by rw [compactItems, List.append_nil]⟩

theorem spells_compactMembers (isFirst : Bool) (members : List (String × Json))
    (h : WritableMembers members) :
    SpellsMembers isFirst members (compactMembers isFirst members) := by
  match members, h with
  | [], _ => exact ⟨[], isGap_nil, rfl⟩
  | (name, value) :: members, ⟨hvalue, hmembers⟩ =>
    refine ⟨[], [], _, _, isGap_nil, isGap_nil, spells_compactChars value hvalue,
      spells_compactMembers false members hmembers, ?_⟩
    rw [compactMembers]
    simp only [List.append_assoc, List.cons_append, List.nil_append]

end

/-- A value that is written over several lines is read back, and nothing follows it. -/
theorem read_pretty {v : Json} (h : Writable v) : read v.pretty = ⟨v, false⟩ :=
  read_of_spells (spells_prettyChars 0 v h)

/-- A value that is written on one line is read back, and nothing follows it. -/
theorem read_compact {v : Json} (h : Writable v) : read v.compact = ⟨v, false⟩ :=
  read_of_spells (spells_compactChars v h)

theorem eq_of_compact_eq {v v' : Json} (h : Writable v) (h' : Writable v')
    (heq : v.compact = v'.compact) : v = v' := by
  have hread := read_compact h
  rw [heq, read_compact h'] at hread
  exact (congrArg Reading.value hread).symm

end SchemaCodegen.Json
