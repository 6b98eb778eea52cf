import SchemaCodegen.Generation.Run
import SchemaCodegen.Proofs.Template.Admission

/-!
# Families of templates

Which flag an artifact goes by is read off its template's name as it is written, in front of the
first slash, while the template itself is found under the canonical spelling of that name. The two
readings agree where the name shows its family (`Template.Name.ShowsFamily`). Any other name is of a
family that no flag is for, so its artifact is generated also where the flag for its template is off
(`GenerationFlags.allows_ne_iff`).
-/

namespace SchemaCodegen

namespace Text

/-- What stands up to a slash stays when something without slashes is taken away at the end. -/
theorem exists_append_slash {cs tail before after : List Char}
    (h : cs ++ tail = before ++ '/' :: after) (htail : '/' ∉ tail) :
    ∃ kept, cs = before ++ '/' :: kept := by
  rcases List.append_eq_append_iff.1 h with ⟨excess, -, hexcess⟩ | ⟨kept, hcs, hrest⟩
  · exact absurd (by simp [hexcess]) htail
  · cases kept with
    | nil =>
      rw [List.nil_append] at hrest
      exact absurd (hrest ▸ List.mem_cons_self) htail
    | cons c kept =>
      obtain ⟨rfl, -⟩ := List.cons.inj hrest
      exact ⟨kept, hcs⟩

/-- What is a letter in lower case is a letter. -/
theorem toNat_of_toLower {c : Char} (hfrom : 'a' ≤ c.toLower) (hto : c.toLower ≤ 'z') :
    65 ≤ c.toNat ∧ c.toNat ≤ 90 ∨ 97 ≤ c.toNat ∧ c.toNat ≤ 122 := by
  unfold Char.toLower at hfrom hto
  split at hfrom
  · next hupper =>
    exact .inl ⟨UInt32.le_iff_toNat_le.1 hupper.1, UInt32.le_iff_toNat_le.1 hupper.2⟩
  · next hother =>
    rw [dif_neg hother] at hto
    exact .inr ⟨UInt32.le_iff_toNat_le.1 hfrom, UInt32.le_iff_toNat_le.1 hto⟩

theorem isBlank_eq_false_of_letter {c : Char}
    (h : 65 ≤ c.toNat ∧ c.toNat ≤ 90 ∨ 97 ≤ c.toNat ∧ c.toNat ≤ 122) : isBlank c = false := by
  simp only [isBlank, inRanges, blankRanges, List.any_cons, List.any_nil, Bool.or_false,
    Bool.or_eq_false_iff, Bool.and_eq_false_imp, decide_eq_true_eq, decide_eq_false_iff_not,
    Nat.not_le]
  omega

end Text

namespace Template.Name

variable {name normalized : String}

/-! ## The first part of a name -/

/-- What stands in a name before its first slash. -/
def front (name : String) : List Char :=
  name.toList.takeWhile (· != '/')

theorem front_eq_of_toList_eq {before after : List Char} (hbefore : '/' ∉ before)
    (h : name.toList = before ++ '/' :: after) : front name = before := by
  have hall : ∀ c ∈ before, (c != '/') = true := fun c hc =>
    bne_iff_ne.2 (ne_of_mem_of_not_mem hc hbefore)
  rw [front, h, List.takeWhile_append_of_pos hall]
  simp

theorem not_mem_front (name : String) : '/' ∉ front name := fun h =>
  absurd (List.all_eq_true.1 List.all_takeWhile _ h) (by decide)

theorem exists_toList_eq_front (h : '/' ∈ name.toList) :
    ∃ after, name.toList = front name ++ '/' :: after := by
  obtain ⟨before, after, hname, hbefore⟩ := List.eq_append_cons_of_mem h
  exact ⟨after, by rw [front_eq_of_toList_eq hbefore hname, hname]⟩

theorem front_eq_toList (h : '/' ∉ name.toList) : front name = name.toList :=
  List.takeWhile_eq_self_iff.2 fun _ hc => bne_iff_ne.2 (ne_of_mem_of_not_mem hc h)

instance (name : String) : Decidable (IsPlain name) :=
  decidable_of_iff (Text.trim name = name ∧ '\\' ∉ name.toList ∧ stem name = name)
    ⟨fun h => ⟨h.1, h.2.1, h.2.2⟩, fun h => ⟨h.trimmed, h.slashed, h.bare⟩⟩

/-- The first part of a name is the first part of its canonical spelling: the name is spelled
plainly, or a slash ends its first part, which has no backslash and no blank in front. -/
def ShowsFamily (name : String) : Prop :=
  IsPlain name ∨ '/' ∈ name.toList ∧ '\\' ∉ front name ∧
    ∀ c ∈ (front name).head?, Text.isBlank c = false

instance (name : String) : Decidable (ShowsFamily name) :=
  inferInstanceAs (Decidable (_ ∨ _))

/-! ## The first part of the canonical spelling -/

/-- The canonical spelling is what is left when blanks are trimmed, backslashes are replaced, and
something without a slash is taken away at the end. -/
theorem exists_canonical_append (name : String) : ∃ trimmed ending,
    Text.Trims name.toList trimmed ∧ trimmed.map slash = (canonical name).toList ++ ending ∧
      '/' ∉ ending := by
  obtain ⟨trimmed, htrims, hdrops⟩ := comesTo_iff.2 (rfl : canonical name = canonical name)
  generalize (canonical name).toList = spelled at hdrops
  generalize hslashed : trimmed.map slash = slashed at hdrops
  cases hdrops with
  | @dropped spelled ending hending =>
    refine ⟨trimmed, ending, htrims, hslashed, fun hmem => ?_⟩
    have hlower : ending.map Char.toLower = ['.', 'j', '2'] := beq_iff_eq.1 hending
    exact absurd (hlower ▸ List.mem_map_of_mem hmem) (by decide)
  | bare hbare => exact ⟨trimmed, [], htrims, by rw [hslashed, List.append_nil], List.not_mem_nil⟩

theorem length_canonical_le (name : String) :
    (canonical name).toList.length ≤ name.toList.length := by
  obtain ⟨trimmed, ending, htrims, hspelled, -⟩ := exists_canonical_append name
  obtain ⟨⟨lead, tail, hname, -⟩, -, -⟩ := htrims
  have hlength := congrArg List.length hspelled
  rw [List.length_map, List.length_append] at hlength
  rw [hname, List.length_append, List.length_append]
  omega

/-- The canonical spelling begins with no blank. -/
theorem isBlank_of_head?_canonical {c : Char} (h : (canonical name).toList.head? = some c) :
    Text.isBlank c = false := by
  obtain ⟨trimmed, ending, htrims, hspelled, -⟩ := exists_canonical_append name
  have hhead : (trimmed.map slash).head? = some c := by
    rw [hspelled, List.head?_append, h]
    rfl
  rw [List.head?_map, Option.map_eq_some_iff] at hhead
  obtain ⟨d, hd, rfl⟩ := hhead
  unfold slash
  split
  · decide
  · exact htrims.start d hd

theorem front_canonical (h : ShowsFamily name) : front (canonical name) = front name := by
  rcases h with hplain | ⟨hslash, hback, hblank⟩
  · rw [canonical_eq_self_iff.2 hplain]
  obtain ⟨after, hname⟩ := exists_toList_eq_front hslash
  obtain ⟨trimmed, ending, htrims, hspelled, hending⟩ := exists_canonical_append name
  obtain ⟨⟨lead, tail, hparts, hblanks⟩, -, -⟩ := htrims
  have hnotBlank : ∀ c ∈ name.toList.head?, Text.isBlank c = false := by
    intro c hc
    rw [hname, List.head?_append] at hc
    rcases Option.or_eq_some_iff.1 hc with hc | ⟨-, hc⟩
    · exact hblank c hc
    · obtain rfl := Option.some.inj hc
      decide
  -- Nothing is trimmed in front of the first part, and what goes at the end has no slash.
  have hlead : lead = [] := by
    cases lead with
    | nil => rfl
    | cons c lead =>
      have hc := hnotBlank c (by rw [hparts]; rfl)
      rw [hblanks c (by simp)] at hc
      cases hc
  rw [hlead, List.nil_append] at hparts
  have htail : '/' ∉ tail := fun hmem =>
    absurd (hblanks '/' (List.mem_append_right _ hmem)) (by decide)
  obtain ⟨kept, htrimmed⟩ := Text.exists_append_slash (hparts.symm.trans hname) htail
  have hsame : (front name).map slash = front name :=
    (List.map_congr_left fun c hc => if_neg (ne_of_mem_of_not_mem hc hback)).trans (List.map_id _)
  have hmapped : trimmed.map slash = front name ++ '/' :: kept.map slash := by
    rw [htrimmed, List.map_append, hsame]
    rfl
  obtain ⟨left, hcanonical⟩ := Text.exists_append_slash (hspelled.symm.trans hmapped) hending
  exact front_eq_of_toList_eq (not_mem_front name) hcanonical

/-- A name shows its family exactly if its first part is the one of its canonical spelling. -/
theorem showsFamily_iff : ShowsFamily name ↔ front (canonical name) = front name := by
  refine ⟨front_canonical, fun h => ?_⟩
  have hstart : front name <+: (canonical name).toList := by
    rw [← h]
    exact List.takeWhile_prefix _
  by_cases hslash : '/' ∈ name.toList
  · refine .inr ⟨hslash, fun hback => ?_, fun c hc => ?_⟩
    · exact not_mem_canonical name (hstart.subset hback)
    · obtain ⟨after, hafter⟩ := hstart
      have hhead : (canonical name).toList.head? = some c := by
        rw [← hafter, List.head?_append]
        exact Option.or_eq_some_iff.2 (.inl hc)
      exact isBlank_of_head?_canonical hhead
  · rw [front_eq_toList hslash] at hstart
    have hsame := hstart.eq_of_length
      (Nat.le_antisymm hstart.length_le (length_canonical_le name))
    exact .inl (canonical_eq_self_iff.1 (String.toList_injective hsame.symm))

end Template.Name

/-! ## The flag for a family -/

namespace GenerationFlags

open Template.Name

variable {name normalized : String}

/-- What a template's name is sorted by: its first part in lower case. -/
def family (template : String) : String :=
  String.ofList ((front template).map Char.toLower)

/-- The families that a flag is for. -/
def families : List String :=
  ["entity", "entities", "repository", "repositories", "controller", "controllers", "api", "react",
    "ui", "sql", "sp", "cqrs"]

theorem asciiLower_headD (template : String) :
    Text.asciiLower ((Text.splitOnChar template '/').headD "") = family template := by
  have hhead := Text.headD_splitWhere (· == '/') template.toList
  have hparts := Text.splitWhere_ne_nil (· == '/') template.toList
  rw [Text.splitOnChar, Text.asciiLower, family, front]
  cases hsplit : Text.splitWhere (· == '/') template.toList with
  | nil => exact absurd hsplit hparts
  | cons part parts =>
    rw [hsplit] at hhead
    rw [List.map_cons, List.headD_cons, String.toList_ofList]
    exact congrArg (fun cs => String.ofList (cs.map Char.toLower)) hhead

theorem allows_congr {other : String} (h : front name = front other) (flags : GenerationFlags) :
    flags.allows name = flags.allows other := by
  unfold allows
  rw [asciiLower_headD, asciiLower_headD, family, family, h]

/-- Artifacts of other families are always generated. -/
theorem allows_of_not_mem (h : family name ∉ families) (flags : GenerationFlags) :
    flags.allows name = true := by
  rw [← asciiLower_headD] at h
  unfold allows
  split
  all_goals
    first
    | rfl
    | next hfamily => exact absurd (by rw [hfamily]; decide) h

/-- A name of a family that a flag is for begins with letters, so that nothing in front of its first
slash changes. -/
theorem showsFamily_of_mem (h : family name ∈ families) : ShowsFamily name := by
  have hletters : ∀ c ∈ front name, 'a' ≤ c.toLower ∧ c.toLower ≤ 'z' := by
    have hall : ∀ family ∈ families, (family.toList.all fun c => 'a' ≤ c ∧ c ≤ 'z') = true := by
      decide
    intro c hc
    refine of_decide_eq_true (List.all_eq_true.1 (hall _ h) c.toLower ?_)
    rw [family, String.toList_ofList]
    exact List.mem_map_of_mem hc
  have hplain : ∀ c ∈ front name, Text.isBlank c = false ∧ c ≠ '\\' ∧ c.toLower ≠ '.' := by
    intro c hc
    obtain ⟨hfrom, hto⟩ := hletters c hc
    have hletter := Text.toNat_of_toLower hfrom hto
    refine ⟨Text.isBlank_eq_false_of_letter hletter, ?_, ?_⟩
    · rintro rfl
      exact absurd hletter (by decide)
    · intro hpoint
      exact absurd (hpoint ▸ hfrom) (by decide)
  by_cases hslash : '/' ∈ name.toList
  · refine .inr ⟨hslash, fun hback => ?_, fun c hc => ?_⟩
    · exact (hplain _ hback).2.1 rfl
    · exact (hplain c (List.mem_of_mem_head? hc)).1
  rw [front_eq_toList hslash] at hplain
  refine .inl ⟨?_, fun hback => (hplain _ hback).2.1 rfl, ?_⟩
  · have htrims : Text.Trims name.toList name.toList :=
      ⟨⟨[], [], by simp, by simp⟩, fun c hc => (hplain c (List.mem_of_mem_head? hc)).1,
        fun c hc => (hplain c (List.mem_of_getLast? hc)).1⟩
    rw [Text.trim, ← Text.trims_iff.1 htrims, String.ofList_toList]
  · have hbare : ∀ before ending, name.toList = before ++ ending → ¬ IsEnding ending := by
      intro before ending hname hending
      have hlower : ending.map Char.toLower = ['.', 'j', '2'] := beq_iff_eq.1 hending
      have hpoint : '.' ∈ ending.map Char.toLower := by
        rw [hlower]
        exact List.mem_cons_self
      obtain ⟨c, hc, hpoint⟩ := List.mem_map.1 hpoint
      exact (hplain c (by rw [hname]; exact List.mem_append_right _ hc)).2.2 hpoint
    simpa using stem_of_bare hbare

theorem allows_ne_iff_of_canonical (name : String) (flags : GenerationFlags) :
    flags.allows name ≠ flags.allows (canonical name) ↔
      flags.allows (canonical name) = false ∧ ¬ ShowsFamily name := by
  constructor
  · intro hne
    have hhidden : ¬ ShowsFamily name := fun hshows =>
      hne (allows_congr (front_canonical hshows).symm flags)
    rw [allows_of_not_mem (mt showsFamily_of_mem hhidden)] at hne
    exact ⟨Bool.eq_false_iff.2 hne.symm, hhidden⟩
  · rintro ⟨hoff, hhidden⟩
    rw [hoff, allows_of_not_mem (mt showsFamily_of_mem hhidden)]
    decide

/-- All flags off. -/
def allOff : GenerationFlags :=
  ⟨false, false, false, false, false, false⟩

theorem allows_allOff (h : family name ∈ families) : allOff.allows name = false := by
  rw [← asciiLower_headD] at h
  unfold allows
  generalize Text.asciiLower ((Text.splitOnChar name '/').headD "") = word at h
  revert word
  decide

/-- Whether an artifact is generated is not always told by the template that is rendered. For a name
as it is written and the spelling that it comes to, the answers differ where the flag for the
template is off and the name does not show its family: then the artifact is generated although it is
disabled. No flags part the two exactly if the name shows its family or no flag is for it. -/
theorem allows_normalize (h : normalize name = .ok normalized) :
    (∀ flags : GenerationFlags, flags.allows name ≠ flags.allows normalized ↔
      flags.allows normalized = false ∧ ¬ ShowsFamily name) ∧
    ((∀ flags : GenerationFlags, flags.allows name = flags.allows normalized) ↔
      ShowsFamily name ∨ family normalized ∉ families) := by
  obtain ⟨rfl, -⟩ := normalize_eq_ok_iff.1 h
  refine ⟨allows_ne_iff_of_canonical name, fun hsame => ?_, ?_⟩
  · by_contra hneither
    rw [not_or, not_not] at hneither
    exact (allows_ne_iff_of_canonical name allOff).2
      ⟨allows_allOff hneither.2, hneither.1⟩ (hsame allOff)
  · rintro (hshows | hother) flags
    · exact allows_congr (front_canonical hshows).symm flags
    · by_contra hne
      have hoff := ((allows_ne_iff_of_canonical name flags).1 hne).1
      rw [allows_of_not_mem hother] at hoff
      cases hoff

/-- Controllers are generated under a name with a backslash also where they are turned off. -/
theorem allows_normalize_backslash : normalize "api\\users" = .ok "api/users" ∧
    allOff.allows "api\\users" ≠ allOff.allows "api/users" := by
  have hnormalize : normalize "api\\users" = .ok "api/users" := by decide
  exact ⟨hnormalize, ((allows_normalize hnormalize).1 allOff).2 ⟨by decide, by decide⟩⟩

/-- Two spellings of one template are not always enabled together. -/
theorem exists_allows_ne_normalize : ¬ ∀ (name normalized : String) (flags : GenerationFlags),
    normalize name = .ok normalized → flags.allows name = flags.allows normalized := by
  intro h
  exact absurd (h "entity.j2" "entity" allOff (by decide)) (by decide)

end GenerationFlags

end SchemaCodegen
