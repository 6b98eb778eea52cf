import Mathlib.Data.List.Basic
import SchemaCodegen.Convention.Resolver
import SchemaCodegen.Proofs.Text.Splitting
import SchemaCodegen.Proofs.Text.Trimming

/-!
# Properties in a comment

A part of a comment between semicolons writes a property where it has an equals sign with a key in
front of it (`Properties.Writes`), and the last part that writes a key counts. Keys and values that
were read so can be written as they are, in any order, and are read again as the same properties
(`Properties.ofComment_commentOf`).
-/

namespace SchemaCodegen

namespace Text

/-- The text is cut at the first place of the character. -/
theorem cutChars_singleton_eq_some_iff {d : Char} {cs before after : List Char} :
    cutChars [d] cs = some (before, after) ↔ cs = before ++ d :: after ∧ d ∉ before := by
  induction cs generalizing before with
  | nil => simp [cutChars]
  | cons c cs ih =>
    have hstart : startsWith [d] (c :: cs) = (d == c) := by
      simp [startsWith, List.isPrefixOf]
    rw [cutChars, hstart]
    by_cases hc : d = c
    · subst hc
      rw [if_pos (beq_self_eq_true d), Option.some.injEq, Prod.mk.injEq]
      constructor
      · rintro ⟨rfl, rfl⟩
        exact ⟨rfl, List.not_mem_nil⟩
      · rintro ⟨hcs, hfirst⟩
        cases before with
        | nil => exact ⟨rfl, (List.cons.inj hcs).2⟩
        | cons b before => exact absurd ((List.cons.inj hcs).1 ▸ List.mem_cons_self) hfirst
    · rw [if_neg (by simpa using hc), Option.map_eq_some_iff]
      constructor
      · rintro ⟨⟨front, rest⟩, hcut, heq⟩
        cases heq
        obtain ⟨rfl, hfirst⟩ := ih.1 hcut
        exact ⟨rfl, by simpa [hc] using hfirst⟩
      · rintro ⟨hcs, hfirst⟩
        cases before with
        | nil => exact absurd (List.cons.inj hcs).1.symm hc
        | cons b before =>
          obtain ⟨rfl, rfl⟩ := List.cons.inj hcs
          exact ⟨(before, after), ih.2 ⟨rfl, fun hd => hfirst (List.mem_cons_of_mem c hd)⟩, rfl⟩

end Text

namespace Properties

variable {part : List Char} {key value comment : String} {pairs : List (String × String)}

/-! ## One part -/

/-- What a part of a comment writes: the key in front of its first equals sign and the value behind
it, both without the blanks at their ends. A key has something in it. -/
def Writes (part : List Char) (key value : String) : Prop :=
  ∃ before after, part = before ++ '=' :: after ∧ '=' ∉ before ∧
    Text.Trims before key.toList ∧ Text.Trims after value.toList ∧ key ≠ ""

theorem pair?_eq_some_iff : pair? part = some (key, value) ↔ Writes part key value := by
  have htext : ∀ {cs trimmed : List Char} {s : String}, trimmed = Text.trimChars cs →
      (String.ofList trimmed = s ↔ Text.Trims cs s.toList) := by
    rintro cs trimmed s rfl
    rw [Text.trims_iff]
    constructor
    · rintro rfl
      exact String.toList_ofList
    · intro h
      rw [← h, String.ofList_toList]
  constructor
  · intro h
    obtain ⟨⟨before, after⟩, hcut, h⟩ := Option.bind_eq_some_iff.1 h
    dsimp only at h
    split at h
    · cases h
    · next hfilled =>
      rw [Option.some.injEq, Prod.mk.injEq] at h
      obtain ⟨hpart, hfirst⟩ := Text.cutChars_singleton_eq_some_iff.1 hcut
      refine ⟨before, after, hpart, hfirst, (htext rfl).1 h.1, (htext rfl).1 h.2, ?_⟩
      rintro rfl
      have hkey := congrArg String.toList h.1
      rw [String.toList_ofList] at hkey
      exact hfilled (by simp [hkey])
  · rintro ⟨before, after, hpart, hfirst, hkey, hvalue, hfilled⟩
    have hcut := Text.cutChars_singleton_eq_some_iff.2 ⟨hpart, hfirst⟩
    have hkeyText := (htext rfl).2 hkey
    have hnonempty : (Text.trimChars before).isEmpty = false := by
      rw [← Text.trims_iff.1 hkey, List.isEmpty_eq_false_iff]
      exact fun hnil => hfilled (String.toList_injective hnil)
    rw [pair?, hcut]
    dsimp only [Option.bind_eq_bind, Option.bind_some]
    rw [hnonempty, hkeyText, (htext rfl).2 hvalue]
    rfl

/-- Keys and values that a comment can write: trimmed, without the characters that part them, and no
key is empty. -/
structure IsWritable (key value : String) : Prop where
  filled : key ≠ ""
  key_trimmed : Text.trim key = key
  value_trimmed : Text.trim value = value
  key_unparted : ';' ∉ key.toList ∧ '=' ∉ key.toList
  value_unparted : ';' ∉ value.toList

theorem trim_eq_self_iff {s : String} : Text.trim s = s ↔ Text.Trims s.toList s.toList := by
  rw [Text.trims_iff, Text.trim]
  constructor
  · intro h
    rw [← String.toList_ofList (l := Text.trimChars s.toList), h]
  · intro h
    rw [← h, String.ofList_toList]

theorem Writes.isWritable (h : Writes part key value) (hpart : ';' ∉ part) :
    IsWritable key value := by
  obtain ⟨before, after, rfl, hfirst, hkey, hvalue, hfilled⟩ := h
  have hbefore : ';' ∉ before := fun hc => hpart (List.mem_append_left _ hc)
  have hafter : ';' ∉ after := fun hc => hpart (List.mem_append_right _ (List.mem_cons_of_mem _ hc))
  exact
    { filled := hfilled
      key_trimmed := trim_eq_self_iff.2 hkey.again
      value_trimmed := trim_eq_self_iff.2 hvalue.again
      key_unparted := ⟨fun hc => hbefore (hkey.mem hc), fun hc => hfirst (hkey.mem hc)⟩
      value_unparted := fun hc => hafter (hvalue.mem hc) }

/-- The part that writes a key and a value as they are. -/
def written (pair : String × String) : String :=
  pair.1 ++ "=" ++ pair.2

theorem toList_written (pair : String × String) :
    (written pair).toList = pair.1.toList ++ '=' :: pair.2.toList := by
  simp [written]

theorem IsWritable.writes (h : IsWritable key value) :
    Writes (written (key, value)).toList key value :=
  ⟨key.toList, value.toList, toList_written _, h.key_unparted.2, trim_eq_self_iff.1 h.key_trimmed,
    trim_eq_self_iff.1 h.value_trimmed, h.filled⟩

theorem IsWritable.not_mem_written (h : IsWritable key value) :
    ';' ∉ (written (key, value)).toList := by
  rw [toList_written, List.mem_append, List.mem_cons]
  rintro (hc | hc | hc)
  · exact h.key_unparted.1 hc
  · cases hc
  · exact h.value_unparted hc

/-! ## The last one counts -/

section Filing

variable {α : Type} {entries : Std.ExtTreeMap String α} {pairs : List (String × α)} {a : α}

theorem getElem?_foldl_insert (pairs : List (String × α)) (entries : Std.ExtTreeMap String α)
    (key : String) : (pairs.foldl (fun entries (key, a) => entries.insert key a) entries)[key]? =
      (pairs.reverse.lookup key).or entries[key]? := by
  induction pairs generalizing entries with
  | nil => rfl
  | cons pair pairs ih =>
    obtain ⟨k, a⟩ := pair
    have hinsert : (entries.insert k a)[key]? = ([(k, a)].lookup key).or entries[key]? := by
      rw [Std.ExtTreeMap.getElem?_insert, List.lookup_cons]
      by_cases hkey : k = key
      · rw [if_pos (by simpa using hkey), hkey, beq_self_eq_true]
        rfl
      · rw [if_neg (by simpa using hkey), beq_false_of_ne (Ne.symm hkey)]
        rfl
    rw [List.foldl_cons, ih, hinsert, List.reverse_cons, List.lookup_append, Option.or_assoc]

/-- Of all values that are filed under a key the last one stays. -/
theorem getElem?_foldl_insert_empty_eq_some_iff :
    (pairs.foldl (fun entries (key, a) => entries.insert key a)
        (∅ : Std.ExtTreeMap String α))[key]? = some a ↔
      ∃ before after, pairs = before ++ (key, a) :: after ∧ ∀ other, (key, other) ∉ after := by
  have hsplit : ∀ before after, pairs.reverse = after ++ (key, a) :: before ↔
      pairs = before.reverse ++ (key, a) :: after.reverse := by
    intro before after
    rw [List.reverse_eq_iff]
    simp
  rw [getElem?_foldl_insert, Std.ExtTreeMap.getElem?_empty, Option.or_none,
    List.lookup_eq_some_iff]
  constructor
  · rintro ⟨after, before, hpairs, hlast⟩
    refine ⟨before.reverse, after.reverse, (hsplit before after).1 hpairs, fun other hmem => ?_⟩
    have hother := hlast _ (List.mem_reverse.1 hmem)
    simp at hother
  · rintro ⟨before, after, hpairs, hlast⟩
    refine ⟨after.reverse, before.reverse, (hsplit _ _).2 (by simpa using hpairs),
      fun pair hmem => ?_⟩
    rw [bne_iff_ne]
    rintro rfl
    exact hlast pair.2 (List.mem_reverse.1 hmem)

/-- Entries under different keys may be filed in any order. -/
theorem foldl_insert_of_perm (h : pairs.Perm entries.toList) :
    pairs.foldl (fun entries (key, a) => entries.insert key a) ∅ = entries := by
  have hdistinct : pairs.Pairwise fun pair other => pair.1 ≠ other.1 := by
    refine (h.pairwise_iff fun hne => Ne.symm hne).2 ?_
    exact Std.ExtTreeMap.distinct_keys_toList.imp fun hne hkeys => hne (by simp [hkeys])
  refine Std.ExtTreeMap.ext_getElem? fun key => Option.ext fun a => ?_
  rw [getElem?_foldl_insert_empty_eq_some_iff, ← Std.ExtTreeMap.mem_toList_iff_getElem?_eq_some,
    ← h.mem_iff, List.mem_iff_append]
  refine exists₂_congr fun before after => and_iff_left_of_imp ?_
  rintro rfl other hother
  exact (List.pairwise_cons.1 (List.pairwise_append.1 hdistinct).2.1).1 _ hother rfl

end Filing

/-! ## A whole comment -/

/-- The parts of a comment, between semicolons. -/
def parts (comment : String) : List (List Char) :=
  Text.splitWhere (· == ';') comment.toList

/-- The last of the parts that write a key writes this value. -/
def LastWrites (parts : List (List Char)) (key value : String) : Prop :=
  ∃ before part after, parts = before ++ part :: after ∧ Writes part key value ∧
    ∀ later ∈ after, ∀ other, ¬ Writes later key other

theorem not_mem_of_mem_parts (h : part ∈ parts comment) : ';' ∉ part := fun hc =>
  absurd (Text.not_of_mem_splitWhere h ';' hc) (by decide)

theorem getElem?_ofComment_eq_some_iff :
    (ofComment comment)[key]? = some value ↔ LastWrites (parts comment) key value := by
  rw [ofComment, getElem?_foldl_insert_empty_eq_some_iff]
  constructor
  · rintro ⟨before, after, hpairs, hlast⟩
    obtain ⟨lead, rest, hparts, -, hrest⟩ := List.filterMap_eq_append_iff.1 hpairs
    obtain ⟨silent, part, tail, rfl, -, hpart, htail⟩ := List.filterMap_eq_cons_iff.1 hrest
    refine ⟨lead ++ silent, part, tail, by rw [parts, hparts, List.append_assoc],
      pair?_eq_some_iff.1 hpart, fun later hlater other hwrites => ?_⟩
    refine hlast other ?_
    rw [← htail]
    exact List.mem_filterMap.2 ⟨later, hlater, pair?_eq_some_iff.2 hwrites⟩
  · rintro ⟨before, part, after, hparts, hpart, hlast⟩
    refine ⟨before.filterMap pair?, after.filterMap pair?, ?_, fun other hmem => ?_⟩
    · change (parts comment).filterMap pair? = _
      rw [hparts, List.filterMap_append, List.filterMap_cons_some (pair?_eq_some_iff.2 hpart)]
    · obtain ⟨later, hlater, hwrites⟩ := List.mem_filterMap.1 hmem
      exact hlast later hlater other (pair?_eq_some_iff.1 hwrites)

theorem isWritable_of_ofComment (h : (ofComment comment)[key]? = some value) :
    IsWritable key value := by
  obtain ⟨before, part, after, hparts, hwrites, -⟩ := getElem?_ofComment_eq_some_iff.1 h
  have hpart : part ∈ parts comment := hparts ▸ List.mem_append_cons_self
  exact hwrites.isWritable (not_mem_of_mem_parts hpart)

/-- The comment that writes these properties one after the other. -/
def commentOf (pairs : List (String × String)) : String :=
  ";".intercalate (pairs.map written)

theorem toComment_eq (properties : Properties) :
    properties.toComment = commentOf properties.toList :=
  rfl

/-- What was written part by part is read part by part. -/
theorem filterMap_parts_commentOf (h : ∀ pair ∈ pairs, IsWritable pair.1 pair.2) :
    (parts (commentOf pairs)).filterMap pair? = pairs := by
  rcases List.eq_nil_or_concat pairs with rfl | ⟨front, last, hpairs⟩
  · rfl
  have hfilled : pairs.map written ≠ [] := by simp [hpairs]
  have hunparted : ∀ part ∈ pairs.map written, ';' ∉ part.toList := by
    intro part hpart
    obtain ⟨pair, hpair, rfl⟩ := List.mem_map.1 hpart
    exact (h pair hpair).not_mem_written
  have hparts : parts (commentOf pairs) = (pairs.map written).map String.toList :=
    Text.splitWhere_intercalate hfilled hunparted
  rw [hparts, List.map_map, List.filterMap_map]
  refine (List.filterMap_congr fun pair hpair => ?_).trans List.filterMap_some
  exact pair?_eq_some_iff.2 (h pair hpair).writes

/-- A comment writes for each key the value of the last part that writes the key. Keys and values
are trimmed and have no semicolon in them, and keys are not empty and have no equals sign; written
again, in whatever order, they are read as the same properties, so every chain of rules resolves
every name as before. -/
theorem ofComment_commentOf (comment : String) :
    (∀ key value, (ofComment comment)[key]? = some value ↔
      LastWrites (parts comment) key value) ∧
    (∀ key value, (ofComment comment)[key]? = some value → IsWritable key value) ∧
    ofComment (ofComment comment).toComment = ofComment comment ∧
    ∀ pairs : List (String × String), pairs.Perm (ofComment comment).toList →
      ofComment (commentOf pairs) = ofComment comment ∧
      ∀ (rules : Convention.Resolver) (name : String),
        rules.resolve name (some (ofComment (commentOf pairs))) =
          rules.resolve name (some (ofComment comment)) := by
  have hagain : ∀ pairs : List (String × String), pairs.Perm (ofComment comment).toList →
      ofComment (commentOf pairs) = ofComment comment := by
    intro pairs hpairs
    have hwritable : ∀ pair ∈ pairs, IsWritable pair.1 pair.2 := fun pair hpair =>
      isWritable_of_ofComment
        (Std.ExtTreeMap.mem_toList_iff_getElem?_eq_some.1 (hpairs.mem_iff.1 hpair))
    calc ofComment (commentOf pairs)
      _ = pairs.foldl (fun properties pair => properties.insert pair.1 pair.2) ∅ :=
        congrArg (List.foldl _ ∅) (filterMap_parts_commentOf hwritable)
      _ = ofComment comment := foldl_insert_of_perm hpairs
  refine ⟨fun key value => getElem?_ofComment_eq_some_iff, fun key value => isWritable_of_ofComment,
    (congrArg ofComment (toComment_eq _)).trans (hagain _ (List.Perm.refl _)),
    fun pairs hpairs => ⟨hagain pairs hpairs, fun rules name => ?_⟩⟩
  rw [hagain pairs hpairs]

/-- A key written twice, blanks of several kinds, a part without a key and one without an equals
sign, written again in another order. -/
theorem ofComment_commentOf_reordered :
    let comment := " ccType = enm;b=c=d ;=e;f;\u00A0ccType\t= LKP "
    let pairs := [("ccType", "LKP"), ("b", "c=d")]
    (ofComment comment)["ccType"]? = some "LKP" ∧ IsWritable "ccType" "LKP" ∧
      pairs.Perm (ofComment comment).toList ∧
      ofComment (commentOf pairs) = ofComment comment := by
  intro comment pairs
  have hvalue : (ofComment comment)["ccType"]? = some "LKP" := by decide +kernel
  have hpairs : (ofComment comment).toList = [("b", "c=d"), ("ccType", "LKP")] := by
    decide +kernel
  have hperm : pairs.Perm (ofComment comment).toList := by
    rw [hpairs]
    exact List.Perm.swap _ _ _
  obtain ⟨-, hwritable, -, hagain⟩ := ofComment_commentOf comment
  exact ⟨hvalue, hwritable _ _ hvalue, hperm, (hagain pairs hperm).1⟩

end Properties

end SchemaCodegen
