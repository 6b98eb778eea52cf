import Mathlib.Data.List.DropRight
import SchemaCodegen.Proofs.Disk.Directories
import SchemaCodegen.Proofs.Disk.Paths

/-!
# Parents of a path that leads somewhere

A path is one of its parents with more segments behind it (`parent?_cases`), so a walk along the
path goes through all of them. Where the path names a location, the parents are directories already
and there is none to create (`Makes.eq_of_names`).
-/

namespace SchemaCodegen

/-! ## The text of a parent -/

namespace Path

variable {p q : Path}

/-- The segments that are not empty: those that a walk takes. -/
def filled (p : Path) : List String :=
  p.segments.filter (· != "")

theorem segments_of_isSegment {s : String} (h : IsSegment s) : (⟨s⟩ : Path).segments = [s] := by
  have hslash : ∀ c ∈ s.toList, (c == '/') = false := by
    intro c hc
    refine beq_false_of_ne ?_
    rintro rfl
    exact h hc
  rw [segments, Text.splitOnChar, Text.splitWhere_of_not _ hslash, List.map_singleton,
    String.ofList_toList]

theorem segments_intercalate {l : List String} (hne : l ≠ []) (h : ∀ s ∈ l, IsSegment s) :
    (⟨"/".intercalate l⟩ : Path).segments = l := by
  have hparts : Text.splitWhere (· == '/') ("/".intercalate l).toList = l.map String.toList :=
    Text.splitWhere_intercalate hne h
  rw [segments, Text.splitOnChar, hparts, List.map_map]
  exact (List.map_congr_left fun s _ => String.ofList_toList).trans (List.map_id' l)

theorem steps_eq_filter_filled (p : Path) : p.steps = p.filled.filter (!isIdle ·) := by
  rw [filled, List.filter_filter]
  refine List.filter_congr fun s _ => ?_
  rw [isIdle, Bool.not_or]
  cases hempty : s == "" <;> simp [bne, hempty]

theorem anchor_append_body (p : Path) :
    p.anchor ++ String.ofList (p.text.toList.drop p.anchor.length) = p.text := by
  have hslash : "/".length = 1 := rfl
  have hpoint : ".".length = 1 := rfl
  rw [anchor]
  split
  · next habsolute =>
    obtain ⟨cs, hcs⟩ := List.head?_eq_some_iff.1 (beq_iff_eq.1 habsolute)
    apply String.toList_injective
    simp [hcs, hslash]
  · split
    · next hhere =>
      obtain ⟨parts, hparts⟩ := List.head?_eq_some_iff.1 (beq_iff_eq.1 hhere)
      have htext : p.text = "/".intercalate ("." :: parts) := by
        rw [← hparts, segments, Text.splitOnChar, Text.intercalate_splitWhere, String.ofList_toList]
      apply String.toList_injective
      cases parts with
      | nil => simp [htext, hpoint]
      | cons part parts => simp [htext, hpoint]
    · simp

/-- Behind the segments of the body come idle ones. -/
theorem exists_bodySegments_append (p : Path) : ∃ idle,
    p.text = p.anchor ++ "/".intercalate (p.bodySegments ++ idle) ∧
      ∀ s ∈ idle, IsSegment s ∧ isIdle s = true := by
  have hbody : (Text.splitOnChar (String.ofList (p.text.toList.drop p.anchor.length)) '/') =
      p.bodySegments ++ ((Text.splitOnChar (String.ofList
        (p.text.toList.drop p.anchor.length)) '/').reverse.takeWhile isIdle).reverse := by
    rw [bodySegments, ← List.reverse_append, List.takeWhile_append_dropWhile,
      List.reverse_reverse]
  generalize hidle : ((Text.splitOnChar (String.ofList (p.text.toList.drop p.anchor.length))
    '/').reverse.takeWhile isIdle).reverse = idle at hbody
  refine ⟨idle, ?_, fun s hs => ⟨?_, ?_⟩⟩
  · rw [← hbody, Text.splitOnChar, String.toList_ofList, Text.intercalate_splitWhere,
      anchor_append_body]
  · have hmem :
        s ∈ Text.splitOnChar (String.ofList (p.text.toList.drop p.anchor.length)) '/' := by
      rw [hbody]
      exact List.mem_append_right _ hs
    exact isSegment_of_mem hmem
  · rw [← hidle, List.mem_reverse] at hs
    exact List.mem_takeWhile_imp hs

theorem steps_eq_filter_bodySegments (p : Path) : p.steps = p.bodySegments.filter (!isIdle ·) := by
  rw [← filter_splitOnChar_body p]
  change _ = ((Text.splitOnChar _ '/').rdropWhile isIdle).filter _
  generalize Text.splitOnChar (String.ofList (p.text.toList.drop p.anchor.length)) '/' = body
  have hidle : (body.rtakeWhile isIdle).filter (!isIdle ·) = [] :=
    List.filter_eq_nil_iff.2 fun s hs => by simp [List.mem_rtakeWhile_imp hs]
  have hwhole : body.rdropWhile isIdle ++ body.rtakeWhile isIdle = body :=
    List.rdropWhile_append_rtakeWhile
  rw [← hwhole, List.filter_append, hidle, List.append_nil, hwhole]

theorem isSegment_of_mem_bodySegments {s : String} (h : s ∈ p.bodySegments) : IsSegment s :=
  isSegment_of_mem (List.IsPrefix.mem h (List.rdropWhile_prefix isIdle _))

/-- A path is its parent with one more step behind it, and idle segments around that. -/
theorem exists_of_parent? (h : p.parent? = some q) :
    p.steps = [] ∧ p.anchor = "." ∧ q = ⟨""⟩ ∨
      ∃ kept last, q = ofBody p.anchor kept ∧ (∀ s ∈ kept, IsSegment s) ∧
        kept.rdropWhile isIdle = kept ∧
        (kept = [] ∧ p.steps = [last] ∨
          kept ≠ [] ∧ ∃ rest, p = ⟨q.text ++ "/" ++ rest⟩ ∧ (⟨rest⟩ : Path).steps = [last]) := by
  unfold parent? at h
  dsimp only at h
  split at h
  · next hbody =>
    split at h
    · next hanchor =>
      cases h
      refine .inl ⟨?_, beq_iff_eq.1 hanchor, rfl⟩
      rw [steps_eq_filter_bodySegments, List.isEmpty_iff.1 hbody]
      rfl
    · cases h
  next hbody =>
  right
  have hfilled : p.bodySegments ≠ [] := by simpa using hbody
  have hlast := List.dropLast_append_getLast hfilled
  have hname : isIdle (p.bodySegments.getLast hfilled) ≠ true :=
    List.rdropWhile_last_not isIdle _ hfilled
  generalize p.bodySegments.getLast hfilled = last at hlast hname
  have hinit : p.bodySegments.dropLast.rdropWhile isIdle ++
      p.bodySegments.dropLast.rtakeWhile isIdle = p.bodySegments.dropLast :=
    List.rdropWhile_append_rtakeWhile
  have hbetween : ∀ s ∈ p.bodySegments.dropLast.rtakeWhile isIdle, isIdle s = true :=
    fun s hs => List.mem_rtakeWhile_imp hs
  generalize p.bodySegments.dropLast.rtakeWhile isIdle = between at hinit hbetween
  have hkept := List.rdropWhile_idempotent isIdle p.bodySegments.dropLast
  change some (ofBody p.anchor (p.bodySegments.dropLast.rdropWhile isIdle)) = some q at h
  generalize p.bodySegments.dropLast.rdropWhile isIdle = kept at h hinit hkept
  cases h
  have hsegment : ∀ s ∈ kept ++ between ++ [last], IsSegment s := by
    rw [hinit, hlast]
    exact fun s => isSegment_of_mem_bodySegments
  refine ⟨kept, last, rfl, fun s hs => hsegment s (by simp [hs]), hkept, ?_⟩
  have hone : (between ++ [last]).filter (!isIdle ·) = [last] := by
    rw [List.filter_append, List.filter_eq_nil_iff.2 fun s hs => by simp [hbetween s hs]]
    simp [hname]
  by_cases hnone : kept = []
  · refine .inl ⟨hnone, ?_⟩
    rw [steps_eq_filter_bodySegments, ← hlast, ← hinit, hnone, List.nil_append, hone]
  · refine .inr ⟨hnone, ?_⟩
    obtain ⟨idle, htext, hidle⟩ := exists_bodySegments_append p
    rw [← hlast, ← hinit, List.append_assoc, List.append_assoc,
      String.intercalate_append_of_ne_nil hnone (by simp)] at htext
    refine ⟨"/".intercalate (between ++ ([last] ++ idle)), congrArg Path.mk ?_, ?_⟩
    · rw [htext, ofBody]
      simp only [String.append_assoc]
    · have hall : ∀ s ∈ between ++ ([last] ++ idle), IsSegment s := by
        intro s hs
        rw [← List.append_assoc] at hs
        rcases List.mem_append.1 hs with hs | hs
        · exact hsegment s (by simpa using .inr (by simpa using hs))
        · exact (hidle s hs).1
      rw [steps, segments_intercalate (by simp) hall, ← List.append_assoc, List.filter_append, hone,
        List.filter_eq_nil_iff.2 fun s hs => by simp [(hidle s hs).2], List.append_nil]

theorem anchor_cases (p : Path) : p.anchor = "/" ∨ p.anchor = "." ∨ p.anchor = "" := by
  rw [anchor]
  split
  · exact .inl rfl
  · split
    · exact .inr (.inl rfl)
    · exact .inr (.inr rfl)

/-- A parent has no steps, or the path is the parent with more steps behind it. -/
theorem parent?_cases (h : p.parent? = some q) :
    q.steps = [] ∨ ∃ rest, p = ⟨q.text ++ "/" ++ rest⟩ ∧ (⟨rest⟩ : Path).steps ≠ [] := by
  rcases exists_of_parent? h with ⟨-, -, rfl⟩ |
    ⟨kept, last, hq, -, -, ⟨rfl, -⟩ | ⟨-, rest, hp, hrest⟩⟩
  · exact .inl (by decide)
  · rw [ofBody, String.intercalate_nil, String.append_empty] at hq
    left
    rw [hq]
    rcases anchor_cases p with hanchor | hanchor | hanchor <;> rw [hanchor] <;> decide
  · exact .inr ⟨rest, hp, by simp [hrest]⟩

end Path

/-! ## Walking through parents -/

namespace Disk

section Walks

variable {paths : Path → Prop} {d d' : Disk} {p q : Path} {x : Location} {a b : List String}

/-- All segments of the path can be walked. -/
def Walks (d : Disk) (p : Path) : Prop :=
  ∃ l, p.filled.foldlM d.enter (d.start p) = .ok l

theorem foldlM_enter_append {l l' : Location} (h : (a ++ b).foldlM d.enter l = .ok l') :
    ∃ between, a.foldlM d.enter l = .ok between ∧ b.foldlM d.enter between = .ok l' := by
  rw [List.foldlM_append] at h
  exact exists_of_bind_eq_ok h

/-- Segments that name nothing lead nowhere else. -/
theorem foldlM_enter_filter (l : Location) (segments : List String) :
    (segments.filter (!Path.isIdle ·)).foldlM d.enter l = segments.foldlM d.enter l := by
  induction segments generalizing l with
  | nil => rfl
  | cons segment segments ih =>
    by_cases hidle : Path.isIdle segment = true
    · have hstays : d.enter l segment = .ok l := by rw [enter, if_pos hidle]
      rw [List.filter_cons_of_neg (by simp [hidle]), ih, List.foldlM_cons, hstays]
      rfl
    · rw [List.filter_cons_of_pos (by simp [hidle]), List.foldlM_cons, List.foldlM_cons]
      exact congrArg (d.enter l segment >>= ·) (funext fun next => ih next)

theorem walks_iff : d.Walks p ↔ ∃ l, p.steps.foldlM d.enter (d.start p) = .ok l := by
  rw [Walks, Path.steps_eq_filter_filled]
  simp only [foldlM_enter_filter]

/-- What is walked along the path, but for its last step, is walked along its parent. -/
theorem walks_of_parent (h : p.parent? = some q)
    (hp : ∃ l, p.steps.dropLast.foldlM d.enter (d.start p) = .ok l) : d.Walks q := by
  rw [walks_iff]
  rcases Path.parent?_cases h with hhere | ⟨rest, rfl, hrest⟩
  · rw [hhere]
    exact ⟨_, rfl⟩
  by_cases hempty : q.text = ""
  · have hnone : q.steps = [] := by
      rw [show q = ⟨""⟩ from congrArg Path.mk hempty]
      decide
    rw [hnone]
    exact ⟨_, rfl⟩
  -- Both walks have the same start, since both texts have the same first character.
  have hstart : d.start ⟨q.text ++ "/" ++ rest⟩ = d.start q := by
    have hhead : (q.text ++ "/" ++ rest).toList.head? = q.text.toList.head? := by
      cases htext : q.text.toList with
      | nil => exact absurd (by simpa using htext) hempty
      | cons c cs => simp [htext]
    rw [start, start, Path.isAbsolute, Path.isAbsolute, hhead]
  obtain ⟨l, hl⟩ := hp
  rw [hstart, Path.steps_append_slash, List.dropLast_append_of_ne_nil hrest] at hl
  obtain ⟨between, hq, -⟩ := foldlM_enter_append hl
  exact ⟨between, hq⟩

theorem exists_foldlM_dropLast {l : Location} (h : ∃ l', a.foldlM d.enter l = .ok l') :
    ∃ l', a.dropLast.foldlM d.enter l = .ok l' := by
  obtain ⟨l', hl⟩ := h
  rcases List.eq_nil_or_concat a with hnil | ⟨steps, last, hlast⟩
  · rw [hnil]
    exact ⟨_, rfl⟩
  · rw [List.concat_eq_append] at hlast
    rw [hlast] at hl ⊢
    obtain ⟨between, hsteps, -⟩ := foldlM_enter_append hl
    rw [List.dropLast_concat]
    exact ⟨between, hsteps⟩

/-- What is walked along the path, but for its last step, is walked along all parents. -/
theorem walks_of_above (hp : ∃ l, p.steps.dropLast.foldlM d.enter (d.start p) = .ok l)
    (h : p.Above q) : d.Walks q := by
  induction h with
  | parent hq => exact walks_of_parent hq hp
  | up _ hq ih => exact walks_of_parent hq (exists_foldlM_dropLast (walks_iff.1 ih))

/-- The last name of a path comes behind the steps to its directory. -/
theorem of_locate_steps {directory : Location} {name : String} {asDirectory : Bool}
    (h : d.locate p = .ok ⟨directory, some name, asDirectory⟩) : name ≠ ".." ∧
      ∃ before, p.steps = before ++ [name] ∧
        before.foldlM d.enter (d.start p) = .ok directory := by
  obtain ⟨hlast, ⟨hhere, hup⟩, hfold, -⟩ := of_locate h
  obtain ⟨before, hbefore⟩ := List.getLast?_eq_some_iff.1 hlast
  change p.filled = _ at hbefore
  change p.filled.dropLast.foldlM _ _ = _ at hfold
  have hfilled : name ≠ "" := by
    have hmem : name ∈ p.filled := by simp [hbefore]
    simpa using (List.mem_filter.1 hmem).2
  rw [hbefore, List.dropLast_concat] at hfold
  refine ⟨hup, before.filter (!Path.isIdle ·), ?_, ?_⟩
  · rw [Path.steps_eq_filter_filled, hbefore, List.filter_append,
      List.filter_cons_of_pos (by simp [Path.isIdle, hfilled, hhere]), List.filter_nil]
  · rw [foldlM_enter_filter, hfold]

/-- Where a path names a location, the last name comes behind the steps to its directory. -/
theorem of_names_steps (hx : d.Names p x) : ∃ before name directory,
    p.steps = before ++ [name] ∧ before.foldlM d.enter (d.start p) = .ok directory ∧
      isTooLong name = false ∧ x = directory ++ [name] := by
  obtain ⟨directory, name, hlocate, hlong, hlocation⟩ := hx
  obtain ⟨-, before, hsteps, hwalk⟩ := of_locate_steps hlocate
  exact ⟨before, name, directory, hsteps, hwalk, hlong, hlocation⟩

/-- The last name of a location is the file name of each path that names it. -/
theorem fileName?_of_names (hx : d.Names p x) :
    ∃ directory name, p.fileName? = some name ∧ x = directory ++ [name] := by
  obtain ⟨directory, name, hlocate, -, rfl⟩ := hx
  obtain ⟨hup, before, hsteps, -⟩ := of_locate_steps hlocate
  exact ⟨directory, name, Path.fileName?_eq_some_iff.2 ⟨by simp [hsteps], hup⟩, rfl⟩

/-- What can be walked is there already. -/
theorem Walks.createDirectory (h : d.Walks p) : d.createDirectory p ≠ .ok d' := by
  intro hcreate
  obtain ⟨⟨directory, name?, asDirectory⟩, hlocate, hcreate⟩ := exists_of_bind_eq_ok hcreate
  obtain ⟨found?, hfind, hcreate⟩ := exists_of_bind_eq_ok hcreate
  cases name? with
  | none => cases hcreate
  | some name =>
    obtain ⟨hlong, hentry⟩ := find_some_iff.1 hfind
    cases found? with
    | some entry => cases hcreate
    | none =>
      obtain ⟨hlast, ⟨hhere, hup⟩, hfold, -⟩ := of_locate hlocate
      obtain ⟨steps, hsteps⟩ := List.getLast?_eq_some_iff.1 hlast
      obtain ⟨l, hl⟩ := h
      change p.filled = _ at hsteps
      change p.filled.dropLast.foldlM _ _ = _ at hfold
      rw [hsteps, List.dropLast_concat] at hfold
      rw [hsteps] at hl
      obtain ⟨between, hbetween, hname⟩ := foldlM_enter_append hl
      rw [hfold] at hbetween
      cases hbetween
      have hfilled : name ≠ "" := by
        have hmem : name ∈ p.filled := by simp [hsteps]
        simpa using (List.mem_filter.1 hmem).2
      have hmissing : d.enter directory name = .error .notFound := by
        simp [enter, Path.isIdle, hfilled, hhere, hup, hlong, hentry]
      rw [List.foldlM_cons, hmissing] at hname
      cases hname

/-- Where a path can be walked, but for its last step, there is no parent to create. -/
theorem Makes.eq_of_walked (h : Makes p.Above d d')
    (hp : ∃ l, p.steps.dropLast.foldlM d.enter (d.start p) = .ok l) : d' = d := by
  induction h with
  | none => rfl
  | one _ habove hcreate ih =>
    subst ih
    exact absurd hcreate (walks_of_above hp habove).createDirectory

/-- Where a path names a location there is no parent to create. -/
theorem Makes.eq_of_names (h : Makes p.Above d d') (hx : d.Names p x) : d' = d := by
  obtain ⟨before, name, directory, hsteps, hwalk, -⟩ := of_names_steps hx
  refine h.eq_of_walked ⟨directory, ?_⟩
  rw [hsteps, List.dropLast_concat, hwalk]

end Walks

end Disk

end SchemaCodegen
