import Mathlib.Data.List.Find
import SchemaCodegen.Convention.Resolver

/-!
# Rules that go by names

One rule looks for a code and an underscore at the start of a column's name, in any case; another
takes the whole name to upper case, by which it may become longer, and looks for one of the oldest
codes. They never contradict each other: a name that starts with ASCII characters in some case has
their capitals at the start of its upper case (`Text.prefix_upperChars`), and all codes differ and
have one length. So neither the order of the two rules in a chain nor the order of the codes in
their tables matters, whatever other rules the chain has (`Convention.name_rules_agree`).
-/

namespace SchemaCodegen

namespace Text

variable {start cs : List Char}

theorem of_isUpper {c : Char} (h : c.isUpper = true) : 65 ≤ c.toNat ∧ c.toNat ≤ 90 := by
  have hbounds : 'A'.val ≤ c.val ∧ c.val ≤ 'Z'.val := of_decide_eq_true h
  exact ⟨UInt32.le_iff_toNat_le.1 hbounds.1, UInt32.le_iff_toNat_le.1 hbounds.2⟩

theorem isAscii_of_isUpper {c : Char} (h : c.isUpper = true) : isAscii c = true := by
  have hcapital := of_isUpper h
  rw [isAscii, decide_eq_true_eq]
  omega

theorem isAscii_toLower (c : Char) : isAscii c.toLower = isAscii c := by
  unfold Char.toLower
  split
  · next hcapital =>
    have hstart : 65 ≤ c.val.toNat := UInt32.le_iff_toNat_le.1 hcapital.1
    have hstop : c.val.toNat ≤ 90 := UInt32.le_iff_toNat_le.1 hcapital.2
    have hsmall : (c.val + ('a'.val - 'A'.val)).toNat = c.val.toNat + 32 := by
      rw [UInt32.toNat_add]
      exact Nat.mod_eq_of_lt (by change c.val.toNat + 32 < _; omega)
    rw [isAscii, isAscii, decide_eq_decide, Char.toNat, Char.toNat, hsmall]
    omega
  · rfl

theorem toUpper_toLower {c : Char} (h : isAscii c = true) : c.toLower.toUpper = c.toUpper := by
  have hall : ∀ n : Fin 128, (Char.ofNat n).toLower.toUpper = (Char.ofNat n).toUpper := by decide
  have hc := hall ⟨c.toNat, of_decide_eq_true h⟩
  rwa [Char.ofNat_toNat] at hc

/-- What starts with ASCII characters in some case starts with their capitals in upper case. -/
theorem prefix_upperChars (hascii : ∀ c ∈ start, isAscii c = true)
    (h : sameIgnoringAsciiCase start (cs.take start.length) = true) :
    start.map Char.toUpper <+: upperChars cs := by
  induction start generalizing cs with
  | nil => exact List.nil_prefix
  | cons d start ih =>
    cases cs with
    | nil => simp [sameIgnoringAsciiCase] at h
    | cons c cs =>
      obtain ⟨hlower, hrest⟩ : d.toLower = c.toLower ∧
          sameIgnoringAsciiCase start (cs.take start.length) = true := by
        simpa [sameIgnoringAsciiCase] using h
      obtain ⟨hd, hascii⟩ := List.forall_mem_cons.1 hascii
      have hc : isAscii c = true := by
        rw [← isAscii_toLower, ← hlower, isAscii_toLower, hd]
      have hupper : d.toUpper = c.toUpper := by
        rw [← toUpper_toLower hd, hlower, toUpper_toLower hc]
      rw [List.map_cons, hupper, upperChars_cons, upperChar_ascii hc]
      exact (List.prefix_cons_inj _).2 (ih hascii hrest)

end Text

namespace Convention

variable {name code start : String} {c c' : Convention} {entry entry' : String × Convention}

/-! ## Codes -/

theorem mem_coded (h : c.code? = some code) : c ∈ coded := by
  cases c with
  | none => cases h
  | _ => decide

theorem code?_inj (h : c.code? = some code) (h' : c'.code? = some code) : c = c' := by
  have hcodes : ∀ c ∈ coded, ∀ c' ∈ coded, c.code? = c'.code? → c = c' := by decide
  exact hcodes c (mem_coded h) c' (mem_coded h') (h.trans h'.symm)

/-- A code is made of three capitals. -/
theorem of_code? (h : c.code? = some code) :
    code.toList.length = 3 ∧ ∀ d ∈ code.toList, d.isUpper = true := by
  cases c with
  | none => cases h
  | _ =>
    cases h
    simp

theorem map_toUpper_toLower (h : c.code? = some code) :
    (code.toList.map Char.toLower).map Char.toUpper = code.toList := by
  cases c with
  | none => cases h
  | _ =>
    cases h
    decide

/-- What a name starts with is ASCII, and its capitals are those of the code and an underscore. -/
theorem of_nameStart? (h : c.nameStart? = some start) : ∃ code, c.code? = some code ∧
    (∀ d ∈ start.toList, Text.isAscii d = true) ∧
      start.toList.map Char.toUpper = code.toList ++ ['_'] := by
  obtain ⟨code, hcode, rfl⟩ := Option.map_eq_some_iff.1 h
  obtain ⟨-, hcapitals⟩ := of_code? hcode
  have hstart : (Text.asciiLower code ++ "_").toList = code.toList.map Char.toLower ++ ['_'] := by
    simp [Text.asciiLower]
  refine ⟨code, hcode, fun d hd => ?_, ?_⟩
  · rw [hstart, List.mem_append, List.mem_map, List.mem_singleton] at hd
    rcases hd with ⟨d, hd, rfl⟩ | rfl
    · rw [Text.isAscii_toLower]
      exact Text.isAscii_of_isUpper (hcapitals d hd)
    · rfl
  · rw [hstart, List.map_append, map_toUpper_toLower hcode]
    rfl

/-- The name starts with the convention's code and an underscore, in any case. -/
def Starts (c : Convention) (name : String) : Prop :=
  ∃ start, c.nameStart? = some start ∧ startsIgnoringCase start.toList name.toList = true

/-- The name starts with the code in upper case. -/
def StartsUpper (code name : String) : Prop :=
  Text.startsWith code.toList (Text.upperChars name.toList) = true

theorem Starts.prefix_upper (h : c.Starts name) : ∃ code, c.code? = some code ∧
    code.toList.length = 3 ∧ code.toList <+: Text.upperChars name.toList := by
  obtain ⟨start, hstart, hname⟩ := h
  obtain ⟨code, hcode, hascii, hupper⟩ := of_nameStart? hstart
  have hprefix := Text.prefix_upperChars hascii hname
  rw [hupper] at hprefix
  exact ⟨code, hcode, (of_code? hcode).1, (List.prefix_append _ _).trans hprefix⟩

theorem StartsUpper.prefix_upper (h : StartsUpper code name) :
    code.toList <+: Text.upperChars name.toList :=
  List.isPrefixOf_iff_prefix.1 h

/-- Codes of one length that one text starts with are the same. -/
theorem eq_of_prefixes {other : String} {cs : List Char} (h : code.toList <+: cs)
    (h' : other.toList <+: cs) (hlength : code.toList.length = other.toList.length) :
    code = other :=
  String.toList_injective ((List.prefix_of_prefix_length_le h h' hlength.le).eq_of_length hlength)

theorem Starts.unique (h : c.Starts name) (h' : c'.Starts name) : c = c' := by
  obtain ⟨code, hcode, hlength, hprefix⟩ := h.prefix_upper
  obtain ⟨code', hcode', hlength', hprefix'⟩ := h'.prefix_upper
  obtain rfl : code = code' := eq_of_prefixes hprefix hprefix' (hlength.trans hlength'.symm)
  exact code?_inj hcode hcode'

/-- The oldest codes are codes still. -/
theorem of_mem_legacyCodes (h : entry ∈ legacyCodes) :
    entry.2.code? = some entry.1 ∧ entry.1.toList.length = 3 := by
  have hall : ∀ entry ∈ legacyCodes,
      entry.2.code? = some entry.1 ∧ entry.1.toList.length = 3 := by decide
  exact hall entry h

theorem Starts.eq_of_startsUpper (h : c.Starts name) (hentry : entry ∈ legacyCodes)
    (hupper : StartsUpper entry.1 name) : c = entry.2 := by
  obtain ⟨code, hcode, hlength, hprefix⟩ := h.prefix_upper
  obtain ⟨hcode', hlength'⟩ := of_mem_legacyCodes hentry
  rw [← eq_of_prefixes hprefix hupper.prefix_upper (hlength.trans hlength'.symm)] at hcode'
  exact code?_inj hcode hcode'

theorem StartsUpper.unique (hentry : entry ∈ legacyCodes) (hentry' : entry' ∈ legacyCodes)
    (h : StartsUpper entry.1 name) (h' : StartsUpper entry'.1 name) : entry = entry' := by
  obtain ⟨hcode, hlength⟩ := of_mem_legacyCodes hentry
  obtain ⟨hcode', hlength'⟩ := of_mem_legacyCodes hentry'
  have hsame := eq_of_prefixes h.prefix_upper h'.prefix_upper (hlength.trans hlength'.symm)
  exact Prod.ext hsame (code?_inj (hsame ▸ hcode) hcode')

/-! ## Answers -/

theorem nameStart?_any_iff : (c.nameStart?.any fun start =>
    startsIgnoringCase start.toList name.toList) = true ↔ c.Starts name := by
  rw [Option.any_eq_true]
  exact exists_congr fun start => Iff.rfl

theorem of_ofNameStart? (h : ofNameStart? name = some c) : c.Starts name := by
  unfold ofNameStart? at h
  have hfound := List.find?_some h
  exact nameStart?_any_iff.1 hfound

theorem of_ofLegacyName? (h : ofLegacyName? name = some c) :
    ∃ entry ∈ legacyCodes, StartsUpper entry.1 name ∧ entry.2 = c := by
  obtain ⟨entry, hentry, rfl⟩ := Option.map_eq_some_iff.1 h
  have hfound := List.find?_some hentry
  exact ⟨entry, List.mem_of_find?_eq_some hentry, hfound, rfl⟩

theorem answers_agree (h : ofNameStart? name = some c) (h' : ofLegacyName? name = some c') :
    c = c' := by
  obtain ⟨entry, hentry, hupper, rfl⟩ := of_ofLegacyName? h'
  exact (of_ofNameStart? h).eq_of_startsUpper hentry hupper

/-! ## Chains with any rules, tables in any order -/

/-- The codes that rules look for, in the order in which they try them. -/
structure CodeTables where
  coded : List Convention
  legacy : List (String × Convention)

namespace CodeTables

def standard : CodeTables :=
  ⟨Convention.coded, legacyCodes⟩

/-- The same codes in another order. -/
def Reorders (tables : CodeTables) : Prop :=
  Convention.coded.Perm tables.coded ∧ legacyCodes.Perm tables.legacy

end CodeTables

variable {tables : CodeTables}

def ofCodeAmong? (codes : List Convention) (text : String) : Option Convention :=
  codes.find? fun c => c.code?.any fun code => Text.sameIgnoringAsciiCase code.toList (codeKey text)

def ofTagAmong? (codes : List Convention) (value : String) : Option Convention := do
  let parts := (Text.splitOnChar value ',').map Text.trim
  ofCodeAmong? codes (← parts.find? fun part => !part.isEmpty)

def ofNameStartAmong? (codes : List Convention) (name : String) : Option Convention :=
  codes.find? fun c => c.nameStart?.any fun start => startsIgnoringCase start.toList name.toList

def ofLegacyNameAmong? (codes : List (String × Convention)) (name : String) : Option Convention :=
  let upper := Text.upperChars name.toList
  (codes.find? fun entry => Text.startsWith entry.1.toList upper).map (·.2)

/-- The answer of a rule that looks codes up in these tables. -/
def Rule.answerBy? (tables : CodeTables) (rule : Rule) (name : String)
    (properties : Option Properties) : Option Convention :=
  match rule with
  | .tag => (properties.bind fun ps => ps[tagKey]?).bind (ofTagAmong? tables.coded)
  | .nameStart => ofNameStartAmong? tables.coded name
  | .legacyCode => ofLegacyNameAmong? tables.legacy name

/-- A link of a chain: a rule of this library, or any other one. -/
inductive Link where
  | own (rule : Rule)
  | other (answer? : String → Option Properties → Option Convention)

def Link.answer? (tables : CodeTables) : Link → String → Option Properties → Option Convention
  | .own rule => rule.answerBy? tables
  | .other answer? => answer?

def resolveBy (tables : CodeTables) (links : List Link) (name : String)
    (properties : Option Properties) : Convention :=
  (links.findSome? fun link => link.answer? tables name properties).getD .none

theorem Rule.answer?_eq (rule : Rule) (name : String) (properties : Option Properties) :
    rule.answer? name properties = rule.answerBy? .standard name properties := by
  cases rule <;> rfl

theorem resolve_eq (rules : Resolver) (name : String) (properties : Option Properties) :
    rules.resolve name properties = resolveBy .standard (rules.map .own) name properties := by
  rw [Resolver.resolve, resolveBy, List.findSome?_map]
  exact congrArg (Option.getD · Convention.none)
    (congrArg (rules.findSome? ·) (funext fun rule => rule.answer?_eq name properties))

/-! ### One code is found in any order -/

section Reordered

variable {codes : List Convention} {legacy : List (String × Convention)}

/-- Two codes that are the same text in some case are one. -/
theorem ofCodeAmong?_of_perm (h : coded.Perm codes) (text : String) :
    ofCodeAmong? codes text = ofCodeAmong? coded text := by
  refine (List.find?_eq_find?_of_perm h ?_).symm
  rintro c ⟨-, hc⟩ c' ⟨-, hc'⟩
  obtain ⟨code, hcode, hsame⟩ := (Option.any_eq_true _ _).1 hc
  obtain ⟨code', hcode', hsame'⟩ := (Option.any_eq_true _ _).1 hc'
  have hlower : code.toList.map Char.toLower = code'.toList.map Char.toLower :=
    (beq_iff_eq.1 hsame).trans (beq_iff_eq.1 hsame').symm
  have hupper := congrArg (List.map Char.toUpper) hlower
  rw [map_toUpper_toLower hcode, map_toUpper_toLower hcode'] at hupper
  obtain rfl := String.toList_injective hupper
  exact code?_inj hcode hcode'

theorem ofTagAmong?_of_perm (h : coded.Perm codes) (value : String) :
    ofTagAmong? codes value = ofTagAmong? coded value := by
  unfold ofTagAmong?
  simp only [ofCodeAmong?_of_perm h]

theorem ofNameStartAmong?_of_perm (h : coded.Perm codes) (name : String) :
    ofNameStartAmong? codes name = ofNameStartAmong? coded name := by
  refine (List.find?_eq_find?_of_perm h ?_).symm
  rintro c ⟨-, hc⟩ c' ⟨-, hc'⟩
  exact (nameStart?_any_iff.1 hc).unique (nameStart?_any_iff.1 hc')

theorem ofLegacyNameAmong?_of_perm (h : legacyCodes.Perm legacy) (name : String) :
    ofLegacyNameAmong? legacy name = ofLegacyNameAmong? legacyCodes name := by
  refine congrArg (Option.map (·.2)) (List.find?_eq_find?_of_perm h ?_).symm
  rintro entry ⟨hentry, hupper⟩ entry' ⟨hentry', hupper'⟩
  exact StartsUpper.unique hentry hentry' hupper hupper'

theorem Link.answer?_of_reorders (h : tables.Reorders) (link : Link) :
    link.answer? tables = link.answer? .standard := by
  funext name properties
  cases link with
  | other answer? => rfl
  | own rule =>
    cases rule with
    | tag =>
      exact congrArg (Option.bind _) (funext fun value => ofTagAmong?_of_perm h.1 value)
    | nameStart => exact ofNameStartAmong?_of_perm h.1 name
    | legacyCode => exact ofLegacyNameAmong?_of_perm h.2 name

end Reordered

/-- Where two rules beside each other agree, it does not matter which one is asked first. -/
theorem findSome?_swap {α β : Type} {f : α → Option β} {a b : α}
    (h : ∀ x y, f a = some x → f b = some y → x = y) (before after : List α) :
    (before ++ a :: b :: after).findSome? f = (before ++ b :: a :: after).findSome? f := by
  have hpair : (a :: b :: after).findSome? f = (b :: a :: after).findSome? f := by
    simp only [List.findSome?_cons]
    cases ha : f a with
    | none => rfl
    | some x =>
      cases hb : f b with
      | none => rfl
      | some y => exact congrArg some (h x y ha hb)
  rw [List.findSome?_append, List.findSome?_append, hpair]

/-- A name starts with one code and underscore at most, and in upper case with one of the oldest
codes at most; where both are there they are the same convention's. So in a chain of any rules the
two that go by names may change places where they stand beside each other, and the codes may be in
any order in their tables. -/
theorem name_rules_agree (name : String) :
    (∀ c c' : Convention, c.Starts name → c'.Starts name → c = c') ∧
    (∀ entry ∈ legacyCodes, ∀ entry' ∈ legacyCodes,
      StartsUpper entry.1 name → StartsUpper entry'.1 name → entry = entry') ∧
    (∀ c c', ofNameStart? name = some c → ofLegacyName? name = some c' → c = c') ∧
    ∀ properties : Option Properties,
      (∀ before after : Resolver,
        Resolver.resolve (before ++ .nameStart :: .legacyCode :: after) name properties =
          Resolver.resolve (before ++ .legacyCode :: .nameStart :: after) name properties) ∧
      (∀ before after : List Link,
        resolveBy .standard (before ++ .own .nameStart :: .own .legacyCode :: after) name
            properties =
          resolveBy .standard (before ++ .own .legacyCode :: .own .nameStart :: after) name
            properties) ∧
      ∀ tables : CodeTables, tables.Reorders →
        (∀ links, resolveBy tables links name properties =
          resolveBy .standard links name properties) ∧
        ∀ rules : Resolver, resolveBy tables (rules.map .own) name properties =
          rules.resolve name properties := by
  refine ⟨fun c c' => Starts.unique, fun entry hentry entry' => StartsUpper.unique hentry,
    fun c c' => answers_agree, fun properties => ⟨fun before after => ?_, fun before after => ?_,
      fun tables htables => ?_⟩⟩
  · exact congrArg (Option.getD · Convention.none)
      (findSome?_swap (fun x y => answers_agree) before after)
  · exact congrArg (Option.getD · Convention.none)
      (findSome?_swap (fun x y => answers_agree) before after)
  · have hlinks : ∀ links, resolveBy tables links name properties =
        resolveBy .standard links name properties := by
      intro links
      unfold resolveBy
      simp only [Link.answer?_of_reorders htables]
    exact ⟨hlinks, fun rules => by rw [hlinks, resolve_eq]⟩

/-- All codes in the opposite order, and a chain in which another rule comes first. -/
theorem name_rules_agree_reversed :
    let tables : CodeTables := ⟨coded.reverse, legacyCodes.reverse⟩
    let links : List Link := [.other fun name _ => if name = "ID" then some .lookup else none,
      .own .tag, .own .legacyCode, .own .nameStart]
    let properties := some (Properties.ofComment "ccType = xyz")
    tables.Reorders ∧ resolveBy tables links "enO_ß" properties =
      resolveBy .standard links "enO_ß" properties := by
  intro tables links properties
  have htables : tables.Reorders := ⟨(List.reverse_perm _).symm, (List.reverse_perm _).symm⟩
  obtain ⟨-, -, -, hresolve⟩ := name_rules_agree "enO_ß"
  exact ⟨htables, ((hresolve properties).2.2 tables htables).1 links⟩

end Convention

end SchemaCodegen
