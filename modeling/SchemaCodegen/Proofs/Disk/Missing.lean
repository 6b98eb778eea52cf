import SchemaCodegen.Proofs.Disk.Parents

/-!
# Files that are missing

A file can be missing and its path still lead somewhere once a directory has been created: of
`d/../d` this holds where nothing is at all. `Lacks` excludes that. Where a path that differs in the
last step only (`Path.Siblings`) leads somewhere, no directory is left to be created, and the file
stays missing as long as nothing is put in its place (`Lacks.awaits`, `Awaits.mono`).
-/

namespace SchemaCodegen

/-! ## Paths beside a path -/

namespace Path

variable {p q : Path} {name name' : String} {before idle : List String}

/-- Two paths that differ in their last step only. -/
structure Siblings (p q : Path) (before : List String) (name name' : String) : Prop where
  steps : p.steps = before ++ [name]
  steps' : q.steps = before ++ [name']
  isAbsolute : q.isAbsolute = p.isAbsolute

theorem siblings_of_slash {a rest rest' : String} (hrest : (⟨rest⟩ : Path).steps = [name])
    (hrest' : (⟨rest'⟩ : Path).steps = [name']) :
    Siblings ⟨a ++ "/" ++ rest⟩ ⟨a ++ "/" ++ rest'⟩ (⟨a⟩ : Path).steps name name' := by
  refine ⟨?_, ?_, ?_⟩
  · rw [steps_append_slash, hrest]
  · rw [steps_append_slash, hrest']
  · -- Both texts have the same first character.
    cases htext : a.toList <;> simp [isAbsolute, htext]

theorem steps_intercalate_idle (hname : IsSegment name) (hfilled : isIdle name = false)
    (h : ∀ s ∈ idle, IsSegment s ∧ isIdle s = true) :
    (⟨"/".intercalate (name :: idle)⟩ : Path).steps = [name] := by
  have hsegments : ∀ s ∈ name :: idle, IsSegment s := by
    intro s hs
    rcases List.mem_cons.1 hs with rfl | hs
    · exact hname
    · exact (h s hs).1
  have hnone : idle.filter (!isIdle ·) = [] :=
    List.filter_eq_nil_iff.2 fun s hs => by simp [(h s hs).2]
  rw [steps, segments_intercalate (List.cons_ne_nil _ _) hsegments,
    List.filter_cons_of_pos (by simp [hfilled]), hnone]

theorem steps_of_isSegment (hname : IsSegment name) (hfilled : isIdle name = false) :
    (⟨name⟩ : Path).steps = [name] := by
  have h : (⟨"/".intercalate [name]⟩ : Path).steps = [name] :=
    steps_intercalate_idle hname hfilled fun s hs => nomatch hs
  rwa [String.intercalate_singleton] at h

/-- Where the body is one name, nothing but a slash may be before it. -/
theorem siblings_of_one (htext : p.text = p.anchor ++ "/".intercalate (name :: idle))
    (hname : IsSegment name) (hfilled : isIdle name = false)
    (hidle : ∀ s ∈ idle, IsSegment s ∧ isIdle s = true) (hname' : IsSegment name')
    (hfilled' : isIdle name' = false) :
    Siblings p (ofBody p.anchor [name']) [] name name' := by
  have hsteps := steps_intercalate_idle hname hfilled hidle
  have hsteps' := steps_of_isSegment hname' hfilled'
  have hanchor : p.anchor = if p.isAbsolute then "/" else
    if p.segments.head? == some "." then "." else "" := rfl
  by_cases habsolute : p.isAbsolute = true
  · rw [if_pos habsolute] at hanchor
    have hslash : p = ⟨"" ++ "/" ++ "/".intercalate (name :: idle)⟩ := by
      rw [hanchor] at htext
      exact congrArg Path.mk htext
    have h := siblings_of_slash (a := "") hsteps hsteps'
    rw [← hslash] at h
    rw [hanchor, ofBody, String.intercalate_singleton]
    exact h
  · rw [if_neg habsolute] at hanchor
    by_cases hhere : (p.segments.head? == some ".") = true
    · -- Behind a `.` at the start comes a slash, and no name.
      rw [if_pos hhere] at hanchor
      rw [hanchor, ← String.intercalate_cons_append] at htext
      have hsegments : p.segments = ("." ++ name) :: idle := by
        have hall : ∀ s ∈ ("." ++ name) :: idle, IsSegment s := by
          intro s hs
          rcases List.mem_cons.1 hs with rfl | hs
          · unfold IsSegment at *
            simp [hname]
          · exact (hidle s hs).1
        rw [show p = ⟨"/".intercalate (("." ++ name) :: idle)⟩ from congrArg Path.mk htext,
          segments_intercalate (List.cons_ne_nil _ _) hall]
      rw [hsegments] at hhere
      have hempty : name = "" := by
        simpa using hhere
      rw [hempty] at hfilled
      cases hfilled
    · rw [if_neg hhere] at hanchor
      rw [hanchor, String.empty_append] at htext
      have hbody : p = ⟨"/".intercalate (name :: idle)⟩ := congrArg Path.mk htext
      rw [hanchor, ofBody, String.intercalate_singleton, String.empty_append]
      refine ⟨?_, hsteps', ?_⟩
      · rw [hbody]
        exact hsteps
      · have hrelative : p.isAbsolute = false := by simpa using habsolute
        rw [hrelative, isAbsolute]
        refine beq_false_of_ne fun hhead => ?_
        exact hname' (List.mem_of_head? hhead)

/-- A path with another last segment behind the same segments. -/
theorem siblings_ofBody (hp : p.fileName? = some name) (hname' : IsSegment name')
    (hfilled' : isIdle name' = false) :
    ∃ before, Siblings p (ofBody p.anchor (p.bodySegments.dropLast ++ [name'])) before name
      name' := by
  have hname : IsSegment name := isSegment_fileName hp
  obtain ⟨hlast, -⟩ := fileName?_eq_some_iff.1 hp
  have hfilled : isIdle name = false := by
    simpa using (List.mem_filter.1 (List.mem_of_getLast? hlast)).2
  obtain ⟨init, hinit⟩ : ∃ init, p.bodySegments = init ++ [name] :=
    List.getLast?_eq_some_iff.1 ((getLast?_bodySegments p).trans hlast)
  obtain ⟨idle, hwhole, hrest⟩ := exists_bodySegments_append p
  rw [hinit, List.append_assoc, List.singleton_append] at hwhole
  have htext : p = ofBody p.anchor (init ++ name :: idle) := congrArg Path.mk hwhole
  rw [hinit, List.dropLast_concat]
  by_cases hnone : init = []
  · subst hnone
    rw [List.nil_append] at hwhole ⊢
    exact ⟨[], siblings_of_one hwhole hname hfilled hrest hname' hfilled'⟩
  · have hjoin : ∀ last more, ofBody p.anchor (init ++ last :: more) =
        ⟨p.anchor ++ "/".intercalate init ++ "/" ++ "/".intercalate (last :: more)⟩ := by
      intro last more
      rw [ofBody, String.intercalate_append_of_ne_nil hnone (List.cons_ne_nil _ _)]
      simp [String.append_assoc]
    refine ⟨(⟨p.anchor ++ "/".intercalate init⟩ : Path).steps, ?_⟩
    have hother : (⟨"/".intercalate [name']⟩ : Path).steps = [name'] :=
      steps_intercalate_idle hname' hfilled' fun s hs => absurd hs List.not_mem_nil
    have h := siblings_of_slash (a := p.anchor ++ "/".intercalate init)
      (steps_intercalate_idle hname hfilled hrest) hother
    rw [← hjoin, ← hjoin, ← htext] at h
    exact h

/-- A name has at most one point more than its stem. -/
theorem count_stem (name : String) :
    name.toList.count '.' ≤ (splitExtension name).1.toList.count '.' + 1 := by
  rcases splitExtension_cases name with hnone | ⟨stem, extension, hsplit, -, hpoint, hname⟩
  · rw [hnone]
    exact Nat.le_succ _
  · have hcount : name.toList.count '.' =
        stem.toList.count '.' + 1 + extension.toList.count '.' := by
      simp only [hname, String.toList_append, List.count_append]
      rfl
    rw [hsplit, hcount, List.count_eq_zero.2 hpoint]

theorem isSegment_stem (h : IsSegment name) : IsSegment (splitExtension name).1 := by
  rcases splitExtension_cases name with hnone | ⟨stem, extension, hsplit, -, -, hname⟩
  · rw [hnone]
    exact h
  · rw [hsplit]
    unfold IsSegment at *
    exact fun hslash => h (by simp [hname, hslash])

/-- An extension with a point in it makes another name. -/
theorem siblings_withExtension {extension : String} (hp : p.fileName? = some name)
    (hsegment : IsSegment extension) (hpoint : '.' ∈ extension.toList) :
    (splitExtension name).1 ++ "." ++ extension ≠ name ∧ ∃ before,
      Siblings p (p.withExtension extension) before name
        ((splitExtension name).1 ++ "." ++ extension) := by
  have hstem := isSegment_stem (isSegment_fileName hp)
  have hpoints := count_stem name
  have hmore : 0 < extension.toList.count '.' := List.count_pos_iff.2 hpoint
  have hname' : IsSegment ((splitExtension name).1 ++ "." ++ extension) := by
    unfold IsSegment at *
    simp [hstem, hsegment]
  have hcount : ((splitExtension name).1 ++ "." ++ extension).toList.count '.' =
      (splitExtension name).1.toList.count '.' + 1 + extension.toList.count '.' := by
    simp only [String.toList_append, List.count_append]
    rfl
  have hfilled' : isIdle ((splitExtension name).1 ++ "." ++ extension) = false := by
    have hother : ∀ s : String, s.toList.count '.' ≤ 1 →
        (splitExtension name).1 ++ "." ++ extension ≠ s := by
      rintro s hs rfl
      omega
    simp [isIdle, hother "" (by decide), hother "." (by decide)]
  have hext : p.withExtension extension = ofBody p.anchor
      (p.bodySegments.dropLast ++ [(splitExtension name).1 ++ "." ++ extension]) := by
    have hfilled : extension.isEmpty = false := by
      rw [Bool.eq_false_iff]
      intro hempty
      rw [String.isEmpty_iff.1 hempty] at hmore
      cases hmore
    unfold withExtension
    rw [hp]
    simp only [hfilled, Bool.false_eq_true, if_false]
  obtain ⟨before, hsiblings⟩ := siblings_ofBody hp hname' hfilled'
  rw [← hext] at hsiblings
  refine ⟨?_, before, hsiblings⟩
  intro hsame
  rw [hsame] at hcount
  omega

end Path

/-! ## Files that are missing -/

namespace Disk

variable {d d' : Disk} {p q : Path} {before : List String} {name name' : String}
  {directory x t : Location}

/-- What is walked before the last step is the same whether the path ends there or goes on with
segments that name nothing. -/
theorem locate_of_steps (hfault : pathFault? p = none) (hsteps : p.steps = before ++ [name])
    (hup : name ≠ "..") :
    (∀ d : Disk, d.locate p = before.foldlM d.enter (d.start p) >>= fun directory =>
      (d.enter directory name).map (⟨·, none, true⟩)) ∨
      ∃ asDirectory, ∀ d : Disk, d.locate p =
        before.foldlM d.enter (d.start p) >>= fun directory =>
          .ok ⟨directory, some name, asDirectory⟩ := by
  have hfilled := Path.steps_eq_filter_filled p
  rw [hsteps] at hfilled
  rcases List.eq_nil_or_concat p.filled with hnone | ⟨segments, last, hlast⟩
  · rw [hnone] at hfilled
    simp at hfilled
  rw [List.concat_eq_append] at hlast
  have hne : last ≠ "" := by
    have hmem : last ∈ p.filled := by simp [hlast]
    simpa using (List.mem_filter.1 hmem).2
  have hlocate : ∀ d : Disk, d.locate p = segments.foldlM d.enter (d.start p) >>= fun directory =>
      if last == "." || last == ".." then (d.enter directory last).map (⟨·, none, true⟩)
      else .ok ⟨directory, some last, p.segments.getLast? == some ""⟩ := by
    intro d
    rw [locate_eq, hfault]
    change d.walk p = _
    unfold walk
    have hwhole : p.segments.filter (· != "") = segments ++ [last] := hlast
    rw [hwhole, List.getLast?_concat, List.dropLast_concat]
    rfl
  rw [hlast, List.filter_append] at hfilled
  by_cases hhere : last = "."
  · subst hhere
    rw [List.filter_cons_of_neg (by decide), List.filter_nil, List.append_nil] at hfilled
    refine .inl fun d => ?_
    rw [hlocate, ← foldlM_enter_filter, ← hfilled, List.foldlM_append, bind_assoc]
    refine congrArg (before.foldlM d.enter (d.start p) >>= ·) (funext fun directory => ?_)
    change (d.enter directory name >>= pure) >>= _ = _
    rw [bind_pure]
    cases d.enter directory name <;> rfl
  · have hidle : Path.isIdle last = false := by simp [Path.isIdle, hne, hhere]
    rw [List.filter_cons_of_pos (by simp [hidle]), List.filter_nil] at hfilled
    obtain ⟨rfl, hname⟩ := List.append_inj' hfilled rfl
    cases hname
    have hdots : ¬ (name == "." || name == "..") = true := by simp [hhere, hup]
    refine .inr ⟨p.segments.getLast? == some "", fun d => ?_⟩
    rw [hlocate, foldlM_enter_filter]
    exact congrArg (segments.foldlM d.enter (d.start p) >>= ·)
      (funext fun directory => if_neg hdots)

theorem locate_of_walked (hfault : pathFault? p = none) (hsteps : p.steps = before ++ [name])
    (hup : name ≠ "..") (hwalk : before.foldlM d.enter (d.start p) = .ok directory) :
    d.locate p = (d.enter directory name).map (⟨·, none, true⟩) ∨
      ∃ asDirectory, d.locate p = .ok ⟨directory, some name, asDirectory⟩ := by
  rcases locate_of_steps hfault hsteps hup with hlocate | ⟨asDirectory, hlocate⟩
  · rw [hlocate d, hwalk]
    exact .inl rfl
  · rw [hlocate d, hwalk]
    exact .inr ⟨asDirectory, rfl⟩

/-- A walk that fails before the last step leads nowhere. -/
theorem locate_of_not_walked {fault : Fault} (hfault : pathFault? p = none)
    (hsteps : p.steps = before ++ [name]) (hup : name ≠ "..")
    (hwalk : before.foldlM d.enter (d.start p) = .error fault) : d.locate p = .error fault := by
  rcases locate_of_steps hfault hsteps hup with hlocate | ⟨asDirectory, hlocate⟩
  · rw [hlocate d, hwalk]
    rfl
  · rw [hlocate d, hwalk]
    rfl

theorem enter_of_name (hidle : Path.isIdle name = false) (hup : name ≠ "..") :
    d.enter directory name =
      if isTooLong name then .error .nameTooLong
      else match d.entry? (directory ++ [name]) with
        | none => .error .notFound
        | some (.file _) => .error .notDirectory
        | some .directory => .ok (directory ++ [name]) := by
  have hup' : (name == "..") = false := beq_eq_false_iff_ne.2 hup
  unfold enter
  rw [hidle, hup']
  rfl

/-- A file is read where its path leads. -/
theorem readFile_eq : d.readFile p = (d.locate p >>= fun target => d.find target >>= fun found? =>
    match found? with
    | none => .error .notFound
    | some (.file content) => if target.asDirectory then .error .notDirectory else .ok content
    | some .directory => .error .isDirectory) := by
  rw [readFile, stat]
  cases d.locate p with
  | error fault => rfl
  | ok target =>
    change (d.find target >>= _) >>= _ = d.find target >>= _
    cases d.find target with
    | error fault => rfl
    | ok found? =>
      rcases found? with _ | _ | content
      · rfl
      · rfl
      · change (if target.asDirectory = true then _ else _) >>= _ = if _ then _ else _
        cases target.asDirectory <;> rfl

/-- Whether a file is missing is decided by the entry under the last step of its path. -/
theorem readFile_eq_notFound_iff (hfault : pathFault? p = none)
    (hsteps : p.steps = before ++ [name]) (hup : name ≠ "..")
    (hwalk : before.foldlM d.enter (d.start p) = .ok directory) :
    d.readFile p = .error .notFound ↔
      isTooLong name = false ∧ d.entry? (directory ++ [name]) = none := by
  have hidle : Path.isIdle name = false := by
    have hmem : name ∈ p.steps := by simp [hsteps]
    simpa using (List.mem_filter.1 hmem).2
  rw [readFile_eq]
  rcases locate_of_walked hfault hsteps hup hwalk with hlocate | ⟨asDirectory, hlocate⟩
  · rw [hlocate, enter_of_name hidle hup]
    cases isTooLong name
    · rcases d.entry? (directory ++ [name]) with _ | _ | content <;>
        simp [Except.map, bind, Except.bind, find]
    · simp [Except.map, bind, Except.bind]
  · rw [hlocate]
    change (d.find ⟨directory, some name, asDirectory⟩ >>= _) = _ ↔ _
    cases hlong : isTooLong name
    · rw [find_some_iff.2 ⟨hlong, rfl⟩]
      rcases d.entry? (directory ++ [name]) with _ | _ | content
      · simp [bind, Except.bind]
      · simp [bind, Except.bind]
      · cases asDirectory <;> simp [bind, Except.bind]
    · simp [find, hlong, bind, Except.bind]

/-- A sibling of a path that leads somewhere has its directory. -/
theorem Names.of_siblings (ht : d.Names q t) (hsiblings : p.Siblings q before name name') :
    ∃ directory, before.foldlM d.enter (d.start p) = .ok directory ∧ t = directory ++ [name'] := by
  obtain ⟨before', last, directory, hsteps, hwalk, -, rfl⟩ := of_names_steps ht
  rw [hsiblings.steps'] at hsteps
  obtain ⟨rfl, hlast⟩ := List.append_inj' hsteps rfl
  cases hlast
  have hstart : d.start q = d.start p := by rw [start, start, hsiblings.isAbsolute]
  rw [hstart] at hwalk
  exact ⟨directory, hwalk, rfl⟩

/-- What is written beside a file does not change what is read from it. -/
theorem readFile_beside (hsiblings : p.Siblings q before name name') (hup : name ≠ "..")
    (hne : name' ≠ name) (ht : d.Names q t) (hextends : Extends d d')
    (hsame : ∀ x, x ≠ t → d'.entry? x = d.entry? x) : d'.readFile p = d.readFile p := by
  obtain ⟨directory, hwalk, rfl⟩ := ht.of_siblings hsiblings
  have hstart' : d'.start p = d.start p := by rw [start, start, hextends.workingDirectory]
  have hwalk' : before.foldlM d'.enter (d'.start p) = .ok directory := by
    rw [hstart']
    exact hextends.foldlM_enter hwalk
  have hentry : d'.entry? (directory ++ [name]) = d.entry? (directory ++ [name]) := by
    refine hsame _ fun h => hne ?_
    exact (List.cons.inj (List.append_cancel_left h)).1.symm
  have hidle : Path.isIdle name = false := by
    have hmem : name ∈ p.steps := by simp [hsiblings.steps]
    simpa using (List.mem_filter.1 hmem).2
  rw [readFile_eq, readFile_eq]
  cases hfault : pathFault? p with
  | some fault =>
    rw [locate_eq, locate_eq, hfault]
    rfl
  | none =>
    rcases locate_of_steps hfault hsiblings.steps hup with hlocate | ⟨asDirectory, hlocate⟩
    · have henter : d'.enter directory name = d.enter directory name := by
        rw [enter_of_name hidle hup, enter_of_name hidle hup, hentry]
      rw [hlocate d, hlocate d', hwalk, hwalk']
      change (d'.enter directory name).map _ >>= _ = (d.enter directory name).map _ >>= _
      rw [henter]
      cases d.enter directory name <;> rfl
    · have hfind : d'.find ⟨directory, some name, asDirectory⟩ =
          d.find ⟨directory, some name, asDirectory⟩ := by
        simp only [find, hentry]
      rw [hlocate d, hlocate d', hwalk, hwalk']
      change d'.find _ >>= _ = d.find _ >>= _
      rw [hfind]

/-- A path that can lead nowhere has another fault than a missing file. -/
theorem pathFault?_of_missing (hsteps : p.steps ≠ []) (h : d.readFile p = .error .notFound) :
    pathFault? p = none := by
  cases hfault : pathFault? p with
  | none => rfl
  | some fault =>
    have hlocate : d.locate p = .error fault := by
      rw [locate_eq, hfault]
    have hread : d.readFile p = .error fault := by
      rw [readFile, stat, hlocate]
      rfl
    rw [h] at hread
    cases hread
    unfold pathFault? at hfault
    split at hfault
    · next hempty =>
      have htext : p = ⟨""⟩ := congrArg Path.mk (String.isEmpty_iff.1 hempty)
      rw [htext] at hsteps
      exact absurd (by decide) hsteps
    · split at hfault
      · cases hfault
      · split at hfault <;> cases hfault

/-- The directory of the path is there, and the location, in it, has no entry. -/
def Awaits (d : Disk) (p : Path) (x : Location) : Prop :=
  pathFault? p = none ∧ ∃ before name directory,
    p.steps = before ++ [name] ∧ name ≠ ".." ∧ isTooLong name = false ∧
      before.foldlM d.enter (d.start p) = .ok directory ∧ x = directory ++ [name] ∧
      d.entry? x = none

/-- The file is missing, and still is when directories above it have been created. -/
def Lacks (d : Disk) (p : Path) : Prop :=
  ∀ d', d.Makes p.Above d' → d'.readFile p = .error .notFound

theorem Awaits.mono (h : d.Awaits p x) (hextends : Extends d d') (hx : d'.entry? x = none) :
    d'.Awaits p x := by
  obtain ⟨hfault, before, name, directory, hsteps, hup, hlong, hwalk, hlocation, -⟩ := h
  have hstart : d'.start p = d.start p := by rw [start, start, hextends.workingDirectory]
  refine ⟨hfault, before, name, directory, hsteps, hup, hlong, ?_, hlocation, hx⟩
  rw [hstart]
  exact hextends.foldlM_enter hwalk

theorem Awaits.entry_eq_none (h : d.Awaits p x) : d.entry? x = none := by
  obtain ⟨-, -, -, -, -, -, -, -, -, hnone⟩ := h
  exact hnone

/-- Where only the file itself is missing there is no directory to create. -/
theorem Awaits.lacks (h : d.Awaits p x) : d.Lacks p := by
  obtain ⟨hfault, before, name, directory, hsteps, hup, hlong, hwalk, rfl, hnone⟩ := h
  intro d' hmakes
  have hsame : d' = d := by
    refine hmakes.eq_of_walked ⟨directory, ?_⟩
    rw [hsteps, List.dropLast_concat, hwalk]
  rw [hsame]
  exact (readFile_eq_notFound_iff hfault hsteps hup hwalk).2 ⟨hlong, hnone⟩

theorem Lacks.readFile (h : d.Lacks p) : d.readFile p = .error .notFound :=
  h d .none

theorem Makes.trans {paths : Path → Prop} {d'' : Disk} (h : Makes paths d d')
    (h' : Makes paths d' d'') : Makes paths d d'' := by
  induction h' with
  | none => exact h
  | one _ hp hcreate ih => exact ih.one hp hcreate

theorem Lacks.of_makes (h : d.Lacks p) (hmakes : d.Makes p.Above d') : d'.Lacks p :=
  fun _ hmore => h _ (hmakes.trans hmore)

/-- A sibling of the path names a location, so the directory of both is there. -/
theorem Lacks.awaits (h : d.Lacks p) (hsiblings : p.Siblings q before name name')
    (hup : name ≠ "..") (hne : name' ≠ name) (ht : d.Names q t) :
    ∃ x, d.Awaits p x ∧ x ≠ t := by
  obtain ⟨directory, hwalk, rfl⟩ := ht.of_siblings hsiblings
  have hfault := pathFault?_of_missing (by simp [hsiblings.steps]) h.readFile
  obtain ⟨hlong, hnone⟩ :=
    (readFile_eq_notFound_iff hfault hsiblings.steps hup hwalk).1 h.readFile
  refine ⟨directory ++ [name], ⟨hfault, before, name, directory, hsiblings.steps, hup, hlong,
    hwalk, rfl, hnone⟩, ?_⟩
  intro hsame
  exact hne (List.cons.inj (List.append_cancel_left hsame)).1.symm

end Disk

end SchemaCodegen
