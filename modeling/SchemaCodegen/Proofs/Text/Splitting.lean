import SchemaCodegen.Text.Search

/-!
# The parts of a text

What is put together around a separator falls into parts there, and no part has a separator in it.
So texts that were joined with a separator that none of them has are parted again by it
(`splitWhere_intercalate`).
-/

namespace SchemaCodegen.Text

theorem splitWhere_append (sep : Char → Bool) (cs : List Char) {c : Char} (h : sep c = true)
    (ds : List Char) : splitWhere sep (cs ++ c :: ds) = splitWhere sep cs ++ splitWhere sep ds := by
  induction cs with
  | nil => simp [splitWhere, h]
  | cons d cs ih =>
    rw [List.cons_append, splitWhere, splitWhere, ih]
    by_cases hd : sep d = true
    · rw [if_pos hd, if_pos hd]
      rfl
    · rw [if_neg hd, if_neg hd]
      cases hparts : splitWhere sep cs with
      | nil => exact absurd hparts (splitWhere_ne_nil sep cs)
      | cons part parts => rfl

theorem splitWhere_of_not (sep : Char → Bool) {cs : List Char} (h : ∀ c ∈ cs, sep c = false) :
    splitWhere sep cs = [cs] := by
  induction cs with
  | nil => rfl
  | cons c cs ih =>
    rw [splitWhere, h c List.mem_cons_self, ih fun d hd => h d (List.mem_cons_of_mem _ hd)]
    rfl

/-- What is added without a separator belongs to the last part. -/
theorem splitWhere_append_of_not (sep : Char → Bool) (cs : List Char) {ds : List Char}
    (h : ∀ c ∈ ds, sep c = false) : ∃ parts last, splitWhere sep cs = parts ++ [last] ∧
      splitWhere sep (cs ++ ds) = parts ++ [last ++ ds] := by
  induction cs with
  | nil => exact ⟨[], [], rfl, splitWhere_of_not sep h⟩
  | cons c cs ih =>
    obtain ⟨parts, last, hbefore, hafter⟩ := ih
    rw [List.cons_append, splitWhere, splitWhere, hbefore, hafter]
    by_cases hc : sep c = true
    · rw [if_pos hc, if_pos hc]
      exact ⟨[] :: parts, last, rfl, rfl⟩
    · rw [if_neg hc, if_neg hc]
      cases parts with
      | nil => exact ⟨[], c :: last, rfl, rfl⟩
      | cons part parts => exact ⟨(c :: part) :: parts, last, rfl, rfl⟩

theorem not_of_mem_splitWhere {sep : Char → Bool} {cs part : List Char}
    (h : part ∈ splitWhere sep cs) : ∀ c ∈ part, sep c = false := by
  induction cs generalizing part with
  | nil =>
    rw [splitWhere, List.mem_singleton] at h
    rw [h]
    exact fun c hc => absurd hc List.not_mem_nil
  | cons d cs ih =>
    rw [splitWhere] at h
    split at h
    · rcases List.mem_cons.1 h with rfl | h
      · exact fun c hc => absurd hc List.not_mem_nil
      · exact ih h
    · next hd =>
      split at h
      · next hparts => exact absurd hparts (splitWhere_ne_nil sep cs)
      · next first parts hparts =>
        rw [hparts] at ih
        rcases List.mem_cons.1 h with rfl | h
        · intro c hc
          rcases List.mem_cons.1 hc with rfl | hc
          · exact Bool.eq_false_iff.2 hd
          · exact ih List.mem_cons_self c hc
        · exact ih (List.mem_cons_of_mem _ h)

/-- What is put in front without a separator belongs to the first part. -/
theorem splitWhere_of_append {sep : Char → Bool} {cs ds part : List Char}
    {parts : List (List Char)} (h : ∀ c ∈ ds, sep c = false)
    (hparts : splitWhere sep cs = part :: parts) :
    splitWhere sep (ds ++ cs) = (ds ++ part) :: parts := by
  induction ds with
  | nil => exact hparts
  | cons d ds ih =>
    rw [List.cons_append, splitWhere, h d List.mem_cons_self,
      ih fun c hc => h c (List.mem_cons_of_mem _ hc)]
    rfl

theorem headD_splitWhere (sep : Char → Bool) (cs : List Char) :
    (splitWhere sep cs).headD [] = cs.takeWhile fun c => !sep c := by
  induction cs with
  | nil => rfl
  | cons c cs ih =>
    rw [splitWhere, List.takeWhile_cons]
    cases hsep : sep c with
    | true => rfl
    | false =>
      cases hparts : splitWhere sep cs with
      | nil => exact absurd hparts (splitWhere_ne_nil sep cs)
      | cons part parts =>
        rw [hparts] at ih
        simp [← ih]

theorem intercalate_splitWhere (cs : List Char) :
    "/".intercalate ((splitWhere (· == '/') cs).map String.ofList) = String.ofList cs := by
  induction cs with
  | nil => rfl
  | cons c cs ih =>
    rw [splitWhere]
    split
    · next hslash =>
      have hparts : (splitWhere (· == '/') cs).map String.ofList ≠ [] := by
        simpa using splitWhere_ne_nil _ cs
      rw [List.map_cons, String.intercalate_cons_of_ne_nil hparts, ih, beq_iff_eq.1 hslash]
      apply String.toList_injective
      simp
    · split
      · next hparts => exact absurd hparts (splitWhere_ne_nil _ cs)
      · next part parts hparts =>
        have hcons : String.ofList (c :: part) = String.ofList [c] ++ String.ofList part := by
          apply String.toList_injective
          simp
        rw [hparts, List.map_cons] at ih
        rw [List.map_cons, hcons, String.intercalate_cons_append, ih]
        apply String.toList_injective
        simp

/-- Texts that were joined with a separator that none of them has are its parts. -/
theorem splitWhere_intercalate {sep : Char} {l : List String} (hne : l ≠ [])
    (h : ∀ s ∈ l, sep ∉ s.toList) :
    splitWhere (· == sep) ((String.singleton sep).intercalate l).toList = l.map String.toList := by
  induction l with
  | nil => exact absurd rfl hne
  | cons s l ih =>
    have hs : splitWhere (· == sep) s.toList = [s.toList] := by
      refine splitWhere_of_not _ fun c hc => beq_false_of_ne ?_
      exact ne_of_mem_of_not_mem hc (h s List.mem_cons_self)
    cases l with
    | nil => rw [String.intercalate_singleton, hs, List.map_singleton]
    | cons t l =>
      have hjoined : ((String.singleton sep).intercalate (s :: t :: l)).toList =
          s.toList ++ sep :: ((String.singleton sep).intercalate (t :: l)).toList := by
        rw [String.intercalate_cons_cons]
        simp
      rw [hjoined, splitWhere_append (· == sep) _ (beq_self_eq_true sep), hs,
        ih (List.cons_ne_nil t l) fun u hu => h u (List.mem_cons_of_mem s hu)]
      rfl

end SchemaCodegen.Text
