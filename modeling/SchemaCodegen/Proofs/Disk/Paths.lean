import SchemaCodegen.Disk.Path
import SchemaCodegen.Proofs.Text.Splitting

/-!
# File names

The last segment of a path that names something is its file name (`fileName?_eq_some_iff`), also
where the path has idle segments, and a path whose file name was replaced ends in the new name
(`getLast?_segments_withFileName`).
-/

namespace SchemaCodegen

namespace Path

/-- The segments that name something or lead up. -/
def steps (p : Path) : List String :=
  p.segments.filter (!isIdle ·)

/-- A text without slashes. -/
def IsSegment (s : String) : Prop :=
  '/' ∉ s.toList

instance (s : String) : Decidable (IsSegment s) :=
  inferInstanceAs (Decidable ('/' ∉ s.toList))

/-- What a directory may list a file or a directory as. -/
structure IsFileName (s : String) : Prop where
  segment : IsSegment s
  filled : isIdle s = false
  inside : s ≠ ".."

instance (s : String) : Decidable (IsFileName s) :=
  decidable_of_iff (IsSegment s ∧ isIdle s = false ∧ s ≠ "..")
    ⟨fun h => ⟨h.1, h.2.1, h.2.2⟩, fun h => ⟨h.segment, h.filled, h.inside⟩⟩

theorem IsFileName.ne_empty {s : String} (h : IsFileName s) : s ≠ "" := by
  rintro rfl
  have hfilled := h.filled
  cases hfilled

theorem isSegment_of_mem {s text : String} (h : s ∈ Text.splitOnChar text '/') : IsSegment s := by
  obtain ⟨part, hpart, rfl⟩ := List.mem_map.1 h
  intro hslash
  rw [String.toList_ofList] at hslash
  exact absurd (Text.not_of_mem_splitWhere hpart '/' hslash) (by decide)

/-- The segments of the text behind the anchor are those of the path, but for idle ones. -/
theorem filter_splitOnChar_body (p : Path) :
    (Text.splitOnChar (String.ofList (p.text.toList.drop p.anchor.length)) '/').filter
      (!isIdle ·) = p.steps := by
  rw [steps, segments, anchor, Text.splitOnChar, Text.splitOnChar, String.toList_ofList]
  cases htext : p.text.toList with
  | nil =>
    rw [List.drop_nil]
  | cons c cs =>
    by_cases hslash : c = '/'
    · subst hslash
      have habsolute : p.isAbsolute = true := by simp [isAbsolute, htext]
      rw [if_pos habsolute]
      change ((Text.splitWhere _ cs).map String.ofList).filter _ =
        ("" :: (Text.splitWhere _ cs).map String.ofList).filter _
      rw [List.filter_cons_of_neg (by decide)]
    · have hrelative : p.isAbsolute = false := by simp [isAbsolute, htext, hslash]
      have hsplit : ∃ part parts, Text.splitWhere (· == '/') cs = part :: parts ∧
          Text.splitWhere (· == '/') (c :: cs) = (c :: part) :: parts := by
        rw [Text.splitWhere, if_neg (by simpa using hslash)]
        cases hparts : Text.splitWhere (· == '/') cs with
        | nil => exact absurd hparts (Text.splitWhere_ne_nil _ cs)
        | cons part parts => exact ⟨part, parts, rfl, rfl⟩
      obtain ⟨part, parts, hrest, hwhole⟩ := hsplit
      have hhead : p.segments.head? = some (String.ofList (c :: part)) := by
        rw [segments, Text.splitOnChar, htext, hwhole]
        rfl
      rw [hrelative, hhead, hwhole]
      by_cases hhere : String.ofList (c :: part) = "."
      · have hpart : c :: part = ['.'] := by
          rw [← String.toList_ofList (l := c :: part), hhere]
          rfl
        cases hpart
        change ((Text.splitWhere _ cs).map String.ofList).filter _ = _
        rw [hrest]
        rfl
      · have hanchor : (if (some (String.ofList (c :: part)) == some ".") = true then "." else "")
            = "" := by
          rw [if_neg]
          simpa using hhere
        simp only [Bool.false_eq_true, if_false, hanchor]
        change ((Text.splitWhere _ (c :: cs)).map String.ofList).filter _ = _
        rw [hwhole]

theorem head?_dropWhile (l : List String) :
    (l.dropWhile isIdle).head? = (l.filter (!isIdle ·)).head? := by
  induction l with
  | nil => rfl
  | cons s l ih =>
    by_cases h : isIdle s = true
    · rw [List.dropWhile_cons_of_pos h, ih, List.filter_cons_of_neg (by simp [h])]
    · rw [List.dropWhile_cons_of_neg h, List.filter_cons_of_pos (by simpa using h)]
      rfl

theorem getLast?_bodySegments (p : Path) : p.bodySegments.getLast? = p.steps.getLast? := by
  rw [bodySegments, List.getLast?_reverse, head?_dropWhile, List.filter_reverse,
    List.head?_reverse, filter_splitOnChar_body]

/-- The file name is the last step, unless that leads up. -/
theorem fileName?_eq_some_iff {p : Path} {name : String} :
    p.fileName? = some name ↔ p.steps.getLast? = some name ∧ name ≠ ".." := by
  delta fileName?
  rw [getLast?_bodySegments]
  cases p.steps.getLast? with
  | none => simp
  | some segment =>
    change (if (segment == "..") = true then none else some segment) = some name ↔ _
    rw [Option.some.injEq]
    constructor
    · intro h
      split at h
      · cases h
      · next hup =>
        cases h
        exact ⟨rfl, fun e => hup (beq_iff_eq.2 e)⟩
    · rintro ⟨rfl, hup⟩
      rw [if_neg fun e => hup (beq_iff_eq.1 e)]

theorem isSegment_fileName {p : Path} {name : String} (h : p.fileName? = some name) :
    IsSegment name := by
  have hlast := (fileName?_eq_some_iff.1 h).1
  exact isSegment_of_mem (List.mem_filter.1 (List.mem_of_getLast? hlast)).1

theorem segments_append_slash (a b : String) :
    (⟨a ++ "/" ++ b⟩ : Path).segments = (⟨a⟩ : Path).segments ++ (⟨b⟩ : Path).segments := by
  have htext : (a ++ "/" ++ b).toList = a.toList ++ '/' :: b.toList := by simp
  rw [segments, segments, segments, Text.splitOnChar, htext,
    Text.splitWhere_append _ _ (by decide), List.map_append]
  rfl

/-- A path that was joined with a name ends in it. -/
theorem steps_append_slash (a b : String) :
    (⟨a ++ "/" ++ b⟩ : Path).steps = (⟨a⟩ : Path).steps ++ (⟨b⟩ : Path).steps := by
  rw [steps, segments_append_slash, List.filter_append]
  rfl

theorem getLast?_segments_join (p : Path) {name : String} (h : IsSegment name) :
    (p.join name).segments.getLast? = some name := by
  have hname : Text.splitWhere (· == '/') name.toList = [name.toList] := by
    refine Text.splitWhere_of_not _ fun c hc => beq_false_of_ne ?_
    rintro rfl
    exact h hc
  have hbehind : ∀ (text : String) (cs : List Char), text.toList = cs ++ '/' :: name.toList →
      (Text.splitOnChar text '/').getLast? = some name := by
    intro text cs htext
    rw [Text.splitOnChar, htext, Text.splitWhere_append _ _ (by decide), hname, List.map_append,
      List.map_singleton, String.ofList_toList, List.getLast?_concat]
  rw [segments, join]
  split
  · next hroot =>
    exact absurd (List.mem_of_head? (beq_iff_eq.1 hroot)) h
  · split
    · next hclosed =>
      rcases Bool.or_eq_true_iff.1 hclosed with hempty | hslash
      · have htext : p.text = "" := by simpa [isEmpty] using hempty
        rw [htext, String.empty_append, Text.splitOnChar, hname, List.map_singleton,
          String.ofList_toList]
        rfl
      · obtain ⟨cs, hcs⟩ := List.getLast?_eq_some_iff.1 (beq_iff_eq.1 hslash)
        refine hbehind _ cs ?_
        rw [String.toList_append, hcs, List.append_assoc]
        rfl
    · refine hbehind _ p.text.toList ?_
      rw [String.toList_append, String.toList_append, List.append_assoc]
      rfl

/-- A path whose file name was replaced ends in the new name. -/
theorem getLast?_segments_withFileName (p : Path) {name : String} (h : IsSegment name) :
    (p.withFileName name).segments.getLast? = some name := by
  unfold withFileName
  cases p.fileName? with
  | none => exact getLast?_segments_join p h
  | some _ => exact getLast?_segments_join (p.parent?.getD ⟨""⟩) h

/-- A suffix is added to the last segment. -/
theorem segments_withSuffix {p : Path} {front : List String} {last suffix : String}
    (hp : p.segments = front ++ [last]) (h : IsSegment suffix) :
    (p.withSuffix suffix).segments = front ++ [last ++ "." ++ suffix] := by
  have hadded : ∀ c ∈ '.' :: suffix.toList, (c == '/') = false := by
    intro c hc
    rcases List.mem_cons.1 hc with rfl | hc
    · rfl
    · refine beq_false_of_ne ?_
      rintro rfl
      exact h hc
  obtain ⟨parts, part, hbefore, hafter⟩ :=
    Text.splitWhere_append_of_not (· == '/') p.text.toList hadded
  have htext : (p.withSuffix suffix).text.toList = p.text.toList ++ '.' :: suffix.toList := by
    simp [withSuffix]
  rw [segments, Text.splitOnChar, hbefore, List.map_append, List.map_singleton] at hp
  obtain ⟨rfl, hlast⟩ := List.append_inj' hp rfl
  cases hlast
  rw [segments, Text.splitOnChar, htext, hafter, List.map_append, List.map_singleton]
  congr 2
  apply String.toList_injective
  simp

theorem exists_segments_eq (p : Path) : ∃ front last, p.segments = front ++ [last] := by
  have hne : p.segments ≠ [] := by simp [segments, Text.splitOnChar, Text.splitWhere_ne_nil]
  exact ⟨_, _, (List.dropLast_concat_getLast hne).symm⟩

theorem getLast?_segments_withSuffix (p : Path) {suffix : String} (h : IsSegment suffix) :
    ∃ last, p.segments.getLast? = some last ∧
      (p.withSuffix suffix).segments.getLast? = some (last ++ "." ++ suffix) := by
  obtain ⟨front, last, hp⟩ := exists_segments_eq p
  refine ⟨last, ?_, ?_⟩
  · rw [hp, List.getLast?_concat]
  · rw [segments_withSuffix hp h, List.getLast?_concat]

/-- A file name with an extension is its stem, a point and the extension. -/
theorem splitExtension_cases (name : String) : splitExtension name = (name, none) ∨
    ∃ stem extension, splitExtension name = (stem, some extension) ∧ stem ≠ "" ∧
      '.' ∉ extension.toList ∧ name = stem ++ "." ++ extension := by
  unfold splitExtension
  dsimp only
  split
  · exact .inl rfl
  next hcut =>
  obtain ⟨hpoint, hstem⟩ := not_or.1 fun h => hcut (Bool.or_eq_true_iff.2 h)
  have hbehind : '.' ∉ name.toList.reverse.takeWhile (· != '.') := fun h => by
    simpa using List.all_eq_true.1 List.all_takeWhile _ h
  have hwhole := List.takeWhile_append_dropWhile (p := (· != '.')) (l := name.toList.reverse)
  generalize name.toList.reverse.takeWhile (· != '.') = behind at *
  cases hfront : name.toList.reverse.dropWhile (· != '.') with
  | nil =>
    rw [hfront, List.append_nil] at hwhole
    simp [hwhole] at hpoint
  | cons c front =>
    have hc : c = '.' := by
      simpa [hfront] using List.head?_dropWhile_not (· != '.') name.toList.reverse
    have htext : name.toList = front.reverse ++ '.' :: behind.reverse := by
      rw [← List.reverse_reverse name.toList, ← hwhole, hfront, hc]
      simp
    have hlength : name.toList.length - behind.reverse.length - 1 = front.reverse.length := by
      rw [htext, List.length_append, List.length_cons]
      omega
    rw [hlength, htext, List.take_left] at hstem ⊢
    refine .inr ⟨_, _, rfl, by simpa using hstem, by simpa using hbehind, ?_⟩
    apply String.toList_injective
    simp [htext]

end Path

end SchemaCodegen
