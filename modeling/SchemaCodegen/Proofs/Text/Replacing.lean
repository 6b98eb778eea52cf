import SchemaCodegen.Proofs.Text.Occurrence
import SchemaCodegen.Proofs.Text.Splitting

/-!
# Replacing a piece of a text

A piece and an image without separators are replaced part by part
(`splitWhere_replaceFrom`), and a text in which something was replaced contains the image
(`replaceFrom_eq_or_infix`). Where a text was put together with places for an image, and the piece
that stands for them occurs in it by accident too, replacing fills more than the places
(`replaceFrom_spell_eq_iff`).
-/

namespace SchemaCodegen.Text

section Parts

variable {sep : Char → Bool} {piece image cs ds part : List Char} {parts : List (List Char)}

/-- The first part reaches as far as there are no separators. -/
theorem prefix_part_iff (hparts : splitWhere sep cs = part :: parts)
    (h : ∀ c ∈ piece, sep c = false) : piece <+: part ↔ piece <+: cs := by
  induction cs generalizing piece part parts with
  | nil =>
    cases hparts
    rfl
  | cons c cs ih =>
    rw [splitWhere] at hparts
    cases piece with
    | nil => simp
    | cons d piece =>
      by_cases hc : sep c = true
      · rw [if_pos hc] at hparts
        cases hparts
        have hne : d ≠ c := by
          rintro rfl
          rw [h d List.mem_cons_self] at hc
          cases hc
        simp [hne]
      · rw [if_neg hc] at hparts
        cases hrest : splitWhere sep cs with
        | nil => exact absurd hrest (splitWhere_ne_nil sep cs)
        | cons first rest =>
          rw [hrest] at hparts
          cases hparts
          rw [List.cons_prefix_cons, List.cons_prefix_cons,
            ih hrest fun b hb => h b (List.mem_cons_of_mem _ hb)]

/-- The parts of a text in which a piece was replaced are its parts with the piece replaced. -/
theorem splitWhere_replaceFrom (hpiece : piece ≠ []) (hsep : ∀ c ∈ piece, sep c = false)
    (himage : ∀ c ∈ image, sep c = false) {skip : Nat} (hskip : ∀ c ∈ cs.take skip, sep c = false)
    (hparts : splitWhere sep cs = part :: parts) :
    splitWhere sep (replaceFrom piece image skip cs) =
      replaceFrom piece image skip part :: parts.map (replaceFrom piece image 0) := by
  induction cs generalizing skip part parts with
  | nil =>
    cases hparts
    cases skip <;> simp [replaceFrom, hpiece, splitWhere]
  | cons c cs ih =>
    obtain ⟨first, rest, hrest⟩ : ∃ first rest, splitWhere sep cs = first :: rest := by
      cases hrest : splitWhere sep cs with
      | nil => exact absurd hrest (splitWhere_ne_nil sep cs)
      | cons first rest => exact ⟨first, rest, rfl⟩
    have hfilled : ¬ piece.isEmpty = true := by simpa using hpiece
    have hfirst : sep c = false → part = c :: first ∧ parts = rest := by
      intro hc
      rw [splitWhere, hc, hrest] at hparts
      cases hparts
      exact ⟨rfl, rfl⟩
    cases skip with
    | succ skip =>
      obtain ⟨rfl, rfl⟩ := hfirst (hskip c List.mem_cons_self)
      exact ih (fun b hb => hskip b (List.mem_cons_of_mem _ hb)) hrest
    | zero =>
      by_cases hhere : startsWith piece (c :: cs) = true
      · -- The piece is taken off as a whole, and all of it belongs to the first part.
        obtain ⟨behind, hbehind⟩ := List.isPrefixOf_iff_prefix.1 hhere
        obtain ⟨d, piece', rfl⟩ := List.exists_cons_of_ne_nil hpiece
        cases hbehind
        obtain ⟨rfl, rfl⟩ := hfirst (hsep c List.mem_cons_self)
        have hpart : startsWith (c :: piece') (c :: first) = true :=
          startsWith_iff.2 ((prefix_part_iff hparts hsep).2 (startsWith_iff.1 hhere))
        rw [replaceFrom, if_neg hfilled, if_pos hhere, replaceFrom, if_neg hfilled, if_pos hpart]
        refine splitWhere_of_append himage (ih ?_ hrest)
        intro b hb
        have hpiece' : b ∈ (piece' ++ behind).take piece'.length := hb
        rw [List.take_left] at hpiece'
        exact hsep b (List.mem_cons_of_mem _ hpiece')
      · rw [replaceFrom, if_neg hfilled, if_neg hhere]
        have hnone : ∀ b ∈ cs.take 0, sep b = false := by simp
        have hnext := ih hnone hrest
        cases hc : sep c with
        | true =>
          rw [splitWhere, hc, hrest] at hparts
          cases hparts
          rw [splitWhere, hc, hnext]
          simp [replaceFrom, hpiece]
        | false =>
          obtain ⟨rfl, rfl⟩ := hfirst hc
          have hpart : ¬ startsWith piece (c :: first) = true := fun h =>
            hhere (startsWith_iff.2 ((prefix_part_iff hparts hsep).1 (startsWith_iff.1 h)))
          rw [splitWhere, hc, hnext, replaceFrom, if_neg hfilled, if_neg hpart]
          rfl

end Parts

/-- A text in which something was replaced contains the image. -/
theorem replaceFrom_eq_or_infix {piece image cs : List Char} (hpiece : piece ≠ []) (skip : Nat) :
    replaceFrom piece image skip cs = cs.drop skip ∨
      image <:+: replaceFrom piece image skip cs := by
  induction cs generalizing skip with
  | nil => exact .inl (by cases skip <;> simp [replaceFrom, hpiece])
  | cons c cs ih =>
    cases skip with
    | succ skip => exact ih skip
    | zero =>
      rw [replaceFrom, if_neg (by simpa using hpiece)]
      split
      · exact .inr (List.prefix_append _ _).isInfix
      · rcases ih 0 with hsame | hinfix
        · exact .inl (congrArg (c :: ·) hsame)
        · exact .inr (List.infix_cons_iff.2 (.inr hinfix))

/-! ## Marked places -/

/-- A text with a piece in each of its marked places, which are those without a character. -/
def spell (piece : List Char) (marked : List (Option Char)) : List Char :=
  marked.flatMap fun place => place.elim piece fun c => [c]

section Marked

variable {piece image cs : List Char} {marked : List (Option Char)}

@[simp]
theorem spell_nil : spell piece [] = [] := rfl

@[simp]
theorem spell_none : spell piece (none :: marked) = piece ++ spell piece marked := rfl

@[simp]
theorem spell_some (c : Char) : spell piece (some c :: marked) = c :: spell piece marked := rfl

@[simp]
theorem spell_append (first second : List (Option Char)) :
    spell piece (first ++ second) = spell piece first ++ spell piece second :=
  List.flatMap_append

@[simp]
theorem spell_map_some (cs : List Char) : spell piece (cs.map some) = cs := by
  induction cs with
  | nil => rfl
  | cons c cs ih => rw [List.map_cons, spell_some, ih]

theorem replaceFrom_drop (skip : Nat) :
    replaceFrom piece image skip cs = replaceFrom piece image 0 (cs.drop skip) := by
  induction skip generalizing cs with
  | zero => rfl
  | succ skip ih =>
    cases cs with
    | nil => rfl
    | cons c cs => exact ih

/-- A piece in front is replaced, and then the rest is searched. -/
theorem replaceFrom_append (hpiece : piece ≠ []) :
    replaceFrom piece image 0 (piece ++ cs) = image ++ replaceFrom piece image 0 cs := by
  obtain ⟨d, ds, rfl⟩ := List.exists_cons_of_ne_nil hpiece
  have hhere : startsWith (d :: ds) (d :: (ds ++ cs)) = true :=
    List.isPrefixOf_iff_prefix.2 (List.prefix_append (d :: ds) cs)
  rw [List.cons_append, replaceFrom, if_neg (by simp), if_pos hhere, replaceFrom_drop,
    List.length_cons, Nat.add_sub_cancel, List.drop_left]

theorem countFrom_append (hpiece : piece ≠ []) :
    countFrom piece 0 (piece ++ cs) = countFrom piece 0 cs + 1 := by
  obtain ⟨d, ds, rfl⟩ := List.exists_cons_of_ne_nil hpiece
  have hhere : startsWith (d :: ds) (d :: (ds ++ cs)) = true :=
    List.isPrefixOf_iff_prefix.2 (List.prefix_append (d :: ds) cs)
  rw [List.cons_append, countFrom, if_pos hhere, countFrom_drop, List.length_cons,
    Nat.add_sub_cancel, List.drop_left]

theorem replaceFrom_cons {c : Char} (hpiece : piece ≠ [])
    (hhere : startsWith piece (c :: cs) = false) :
    replaceFrom piece image 0 (c :: cs) = c :: replaceFrom piece image 0 cs := by
  rw [replaceFrom, if_neg (by simpa using hpiece), if_neg (by simp [hhere])]

theorem countFrom_cons {c : Char} (hhere : startsWith piece (c :: cs) = false) :
    countFrom piece 0 (c :: cs) = countFrom piece 0 cs := by
  rw [countFrom, if_neg (by simp [hhere])]

end Marked

section Places

variable {d : Char} {ds image : List Char} {marked : List (Option Char)}

/-- Without its first character, nothing of a piece reaches into a marked place. -/
theorem exists_of_append_eq_spell {cs rest : List Char} (hcs : d ∉ cs)
    (h : cs ++ rest = spell (d :: ds) marked) : ∃ left, marked = cs.map some ++ left := by
  induction cs generalizing marked with
  | nil => exact ⟨marked, rfl⟩
  | cons c cs ih =>
    cases marked with
    | nil => cases h
    | cons place marked =>
      cases place with
      | none =>
        obtain ⟨rfl, -⟩ := List.cons.inj h
        exact absurd List.mem_cons_self hcs
      | some b =>
        rw [List.cons_append, spell_some] at h
        obtain ⟨rfl, hrest⟩ := List.cons.inj h
        obtain ⟨left, rfl⟩ := ih (fun hmem => hcs (List.mem_cons_of_mem _ hmem)) hrest
        exact ⟨left, rfl⟩

/-- A search in a text with marked places finds a marked place, finds the piece where it was spelled
out by accident, or goes on by one character. -/
theorem marked_induction {motive : List (Option Char) → Prop} (hd : d ∉ ds) (nil : motive [])
    (place : ∀ marked, motive marked → motive (none :: marked))
    (accident : ∀ marked, motive marked → motive ((d :: ds).map some ++ marked))
    (other : ∀ c marked, startsWith (d :: ds) (c :: spell (d :: ds) marked) = false →
      motive marked → motive (some c :: marked))
    (marked : List (Option Char)) : motive marked := by
  induction hlength : marked.length using Nat.strong_induction_on generalizing marked with
  | _ length ih =>
    cases marked with
    | nil => exact nil
    | cons first marked =>
      cases first with
      | none => exact place marked (ih _ (by rw [← hlength]; exact Nat.lt_succ_self _) _ rfl)
      | some c =>
        cases hhere : startsWith (d :: ds) (c :: spell (d :: ds) marked) with
        | false =>
          exact other c marked hhere (ih _ (by rw [← hlength]; exact Nat.lt_succ_self _) _ rfl)
        | true =>
          obtain ⟨rest, htext⟩ := List.isPrefixOf_iff_prefix.1 hhere
          rw [List.cons_append] at htext
          obtain ⟨rfl, hrest⟩ := List.cons.inj htext
          obtain ⟨left, rfl⟩ := exists_of_append_eq_spell hd hrest
          refine accident left (ih _ ?_ _ rfl)
          rw [← hlength, List.length_cons, List.length_append]
          omega

/-- Each piece that was spelled out by accident is counted beside the marked places, and makes the
filled text differ in length as the image does from the piece. -/
theorem exists_accidents (hd : d ∉ ds) (image : List Char) (marked : List (Option Char)) :
    ∃ n, countFrom (d :: ds) 0 (spell (d :: ds) marked) = marked.count none + n ∧
      (replaceFrom (d :: ds) image 0 (spell (d :: ds) marked)).length + (d :: ds).length * n =
        (spell image marked).length + image.length * n := by
  have hpiece : d :: ds ≠ [] := List.cons_ne_nil d ds
  induction marked using marked_induction hd with
  | nil => exact ⟨0, rfl, rfl⟩
  | place marked ih =>
    obtain ⟨n, hcount, hlength⟩ := ih
    refine ⟨n, ?_, ?_⟩
    · rw [spell_none, countFrom_append hpiece, List.count_cons_self, hcount]
      omega
    · rw [spell_none, replaceFrom_append hpiece, spell_none, List.length_append,
        List.length_append]
      omega
  | accident marked ih =>
    obtain ⟨n, hcount, hlength⟩ := ih
    refine ⟨n + 1, ?_, ?_⟩
    · have hnone : none ∉ (d :: ds).map some := by simp
      rw [spell_append, spell_map_some, countFrom_append hpiece, List.count_append,
        List.count_eq_zero_of_not_mem hnone, hcount]
      omega
    · rw [spell_append, spell_map_some, replaceFrom_append hpiece, spell_append, spell_map_some,
        List.length_append, List.length_append, Nat.mul_succ, Nat.mul_succ]
      omega
  | other c marked hhere ih =>
    obtain ⟨n, hcount, hlength⟩ := ih
    refine ⟨n, ?_, ?_⟩
    · rw [spell_some, countFrom_cons hhere, List.count_cons_of_ne (by simp), hcount]
    · rw [spell_some, replaceFrom_cons hpiece hhere, spell_some]
      simp only [List.length_cons] at hlength ⊢
      omega

theorem count_le_countFrom_spell (hd : d ∉ ds) (marked : List (Option Char)) :
    marked.count none ≤ countFrom (d :: ds) 0 (spell (d :: ds) marked) := by
  obtain ⟨n, hcount, -⟩ := exists_accidents hd [] marked
  omega

/-- Replacing fills the marked places and nothing else exactly if no other place is counted, or if
the image is the piece itself. -/
theorem replaceFrom_spell_eq_iff (hd : d ∉ ds) :
    replaceFrom (d :: ds) image 0 (spell (d :: ds) marked) = spell image marked ↔
      countFrom (d :: ds) 0 (spell (d :: ds) marked) = marked.count none ∨ image = d :: ds := by
  have hpiece : d :: ds ≠ [] := List.cons_ne_nil d ds
  constructor
  · intro h
    obtain ⟨n, hcount, hlength⟩ := exists_accidents hd image marked
    rw [h, Nat.add_left_cancel_iff] at hlength
    by_cases hsame : image.length = (d :: ds).length
    · clear hcount hlength
      induction marked using marked_induction hd with
      | nil => exact .inl rfl
      | place marked ih =>
        rw [spell_none, spell_none, replaceFrom_append hpiece, List.append_cancel_left_eq] at h
        rw [spell_none, countFrom_append hpiece, List.count_cons_self, Nat.add_right_cancel_iff]
        exact ih h
      | accident marked ih =>
        rw [spell_append, spell_append, spell_map_some, spell_map_some,
          replaceFrom_append hpiece] at h
        exact .inr (List.append_inj_left h hsame)
      | other c marked hhere ih =>
        rw [spell_some, spell_some, replaceFrom_cons hpiece hhere] at h
        rw [spell_some, countFrom_cons hhere, List.count_cons_of_ne (by simp)]
        exact ih (List.cons.inj h).2
    · rcases Nat.eq_zero_or_pos n with rfl | hn
      · exact .inl hcount
      · exact absurd (Nat.eq_of_mul_eq_mul_right hn hlength).symm hsame
  · intro h
    induction marked using marked_induction hd with
    | nil => rfl
    | place marked ih =>
      rw [spell_none, countFrom_append hpiece, List.count_cons_self, Nat.add_right_cancel_iff] at h
      rw [spell_none, spell_none, replaceFrom_append hpiece, ih h]
    | accident marked ih =>
      rw [spell_append, spell_append, spell_map_some, spell_map_some, replaceFrom_append hpiece]
      rcases h with h | rfl
      · have hnone : none ∉ (d :: ds).map some := by simp
        have hle := count_le_countFrom_spell hd marked
        rw [spell_append, spell_map_some, countFrom_append hpiece, List.count_append,
          List.count_eq_zero_of_not_mem hnone] at h
        omega
      · rw [ih (.inr rfl)]
    | other c marked hhere ih =>
      rw [spell_some, countFrom_cons hhere, List.count_cons_of_ne (by simp)] at h
      rw [spell_some, spell_some, replaceFrom_cons hpiece hhere, ih h]

/-- A text spells out nothing by accident where its characters do not begin the piece. -/
theorem countFrom_spell_eq (hd : d ∉ ds) (hmarked : some d ∉ marked) :
    countFrom (d :: ds) 0 (spell (d :: ds) marked) = marked.count none := by
  induction marked using marked_induction hd with
  | nil => rfl
  | place marked ih =>
    rw [spell_none, countFrom_append (List.cons_ne_nil d ds), List.count_cons_self,
      ih fun h => hmarked (List.mem_cons_of_mem _ h)]
  | accident marked ih => exact absurd List.mem_cons_self hmarked
  | other c marked hhere ih =>
    rw [spell_some, countFrom_cons hhere, List.count_cons_of_ne (by simp),
      ih fun h => hmarked (List.mem_cons_of_mem _ h)]

end Places

end SchemaCodegen.Text
