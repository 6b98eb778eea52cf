import Mathlib.Data.List.TakeWhile
import SchemaCodegen.Text.Blank

/-!
# Trimmed texts

A text without the blanks at its ends, told by how it stands in the text (`Trims`) and as what
trimming comes to (`trims_iff`). What is trimmed stays as it is when it is trimmed again.
-/

namespace SchemaCodegen.Text

theorem sublist_trimChars (cs : List Char) : (trimChars cs).Sublist cs := by
  have hstart : (dropBlanks cs).Sublist cs := List.dropWhile_sublist _
  have hend : ((dropBlanks cs).reverse.dropWhile isBlank).Sublist (dropBlanks cs).reverse :=
    List.dropWhile_sublist _
  exact (List.reverse_sublist.1 (by simpa [trimChars, dropBlanksEnd] using hend)).trans hstart

theorem dropBlanks_append {cs ds : List Char} {d : Char} (h : isBlank d = false) :
    dropBlanks (cs ++ d :: ds) = dropBlanks cs ++ d :: ds := by
  induction cs with
  | nil => exact List.dropWhile_cons_of_neg (by simp [h])
  | cons c cs ih =>
    rw [List.cons_append, dropBlanks, dropBlanks, List.dropWhile_cons, List.dropWhile_cons]
    split
    · exact ih
    · rfl

theorem dropBlanksEnd_concat {cs : List Char} {d : Char} (h : isBlank d = false) :
    dropBlanksEnd (cs ++ [d]) = cs ++ [d] := by
  rw [dropBlanksEnd, List.reverse_concat, List.dropWhile_cons_of_neg (by simp [h]),
    ← List.reverse_concat, List.reverse_reverse]

/-- The second text is the first one without the blanks at its ends. -/
structure Trims (cs trimmed : List Char) : Prop where
  parts : ∃ lead tail, cs = lead ++ trimmed ++ tail ∧ ∀ c ∈ lead ++ tail, isBlank c = true
  start : ∀ c ∈ trimmed.head?, isBlank c = false
  stop : ∀ c ∈ trimmed.getLast?, isBlank c = false

theorem dropBlanksEnd_append {cs tail : List Char} (h : ∀ c ∈ tail, isBlank c = true) :
    dropBlanksEnd (cs ++ tail) = dropBlanksEnd cs := by
  rw [dropBlanksEnd, List.reverse_append,
    List.dropWhile_append_of_pos fun c hc => h c (List.mem_reverse.1 hc), dropBlanksEnd]

theorem exists_dropBlanksEnd_append (cs : List Char) :
    ∃ tail, cs = dropBlanksEnd cs ++ tail ∧ ∀ c ∈ tail, isBlank c = true := by
  refine ⟨(cs.reverse.takeWhile isBlank).reverse, ?_, fun c hc => ?_⟩
  · rw [dropBlanksEnd, ← List.reverse_append, List.takeWhile_append_dropWhile, List.reverse_reverse]
  · exact List.all_eq_true.1 List.all_takeWhile c (List.mem_reverse.1 hc)

theorem isBlank_of_head?_dropWhile {cs : List Char} {c : Char}
    (h : (cs.dropWhile isBlank).head? = some c) : isBlank c = false := by
  have hnot := List.head?_dropWhile_not isBlank cs
  rw [h] at hnot
  exact hnot

theorem trims_iff {cs trimmed : List Char} : Trims cs trimmed ↔ trimmed = trimChars cs := by
  constructor
  · rintro ⟨⟨lead, tail, rfl, hblank⟩, hstart, hstop⟩
    have hlead : ∀ c ∈ lead, isBlank c = true := fun c hc => hblank c (List.mem_append_left _ hc)
    have htail : ∀ c ∈ tail, isBlank c = true := fun c hc => hblank c (List.mem_append_right _ hc)
    rw [trimChars, dropBlanks, List.append_assoc, List.dropWhile_append_of_pos hlead]
    rcases List.eq_nil_or_concat trimmed with rfl | ⟨front, last, hlast⟩
    · have hall : tail.dropWhile isBlank = [] := List.dropWhile_eq_nil_iff.2 htail
      rw [List.nil_append, hall]
      rfl
    · rw [List.concat_eq_append] at hlast
      have hkept : (trimmed ++ tail).dropWhile isBlank = trimmed ++ tail := by
        cases trimmed with
        | nil => simp at hlast
        | cons c cs => exact List.dropWhile_cons_of_neg (by simp [hstart c rfl])
      have hend : isBlank last = false := hstop last (by rw [hlast]; exact List.getLast?_concat)
      rw [hkept, dropBlanksEnd_append htail, hlast, dropBlanksEnd_concat hend]
  · rintro rfl
    obtain ⟨tail, hcs, htail⟩ := exists_dropBlanksEnd_append (dropBlanks cs)
    refine ⟨⟨cs.takeWhile isBlank, tail, ?_, fun c hc => ?_⟩, fun c hc => ?_, fun c hc => ?_⟩
    · rw [List.append_assoc, trimChars, ← hcs, dropBlanks, List.takeWhile_append_dropWhile]
    · rcases List.mem_append.1 hc with hc | hc
      · exact List.all_eq_true.1 List.all_takeWhile c hc
      · exact htail c hc
    · have hhead : (dropBlanks cs).head? = some c := by
        rw [hcs, List.head?_append]
        exact Option.or_eq_some_iff.2 (.inl hc)
      exact isBlank_of_head?_dropWhile hhead
    · rw [trimChars, dropBlanksEnd, List.getLast?_reverse] at hc
      exact isBlank_of_head?_dropWhile hc

section Trims

variable {cs trimmed : List Char}

theorem Trims.mem {c : Char} (h : Trims cs trimmed) (hc : c ∈ trimmed) : c ∈ cs := by
  obtain ⟨lead, tail, rfl, -⟩ := h.parts
  exact List.mem_append_left _ (List.mem_append_right _ hc)

/-- What was trimmed has nothing left to trim. -/
theorem Trims.again (h : Trims cs trimmed) : Trims trimmed trimmed where
  parts := ⟨[], [], (List.append_nil trimmed).symm, fun _ hc => absurd hc List.not_mem_nil⟩
  start := h.start
  stop := h.stop

end Trims

end SchemaCodegen.Text
