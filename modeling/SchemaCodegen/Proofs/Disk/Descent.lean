import SchemaCodegen.Proofs.Disk.Missing

/-!
# Paths that lead down

A path without `..` leads where its steps say (`Names.eq_of_down`). On a disk whose entries all lie
in directories (`IsTree`) there is nothing below what is missing, so a file that such a path leads
to is read the same whatever directories above it are created (`Steady.of_down`), unless its name is
one that no entry can have.
-/

namespace SchemaCodegen

/-! ## Steps of parents -/

namespace Path

variable {p q : Path} {s : String}

theorem isIdle_of_mem_steps (h : s ∈ p.steps) : isIdle s = false := by
  simpa using (List.mem_filter.1 h).2

theorem steps_of_parent? (h : p.parent? = some q) : q.steps = [] ∨
    q.isAbsolute = p.isAbsolute ∧ ∃ more, more ≠ [] ∧ p.steps = q.steps ++ more := by
  rcases parent?_cases h with hnone | ⟨rest, rfl, hrest⟩
  · exact .inl hnone
  · by_cases hempty : q.text = ""
    · left
      rw [show q = ⟨""⟩ from congrArg Path.mk hempty]
      decide
    · refine .inr ⟨?_, (⟨rest⟩ : Path).steps, hrest, steps_append_slash q.text rest⟩
      cases htext : q.text.toList with
      | nil => exact absurd (String.toList_eq_nil_iff.1 htext) hempty
      | cons c cs => simp [isAbsolute, htext]

/-- A path goes on from each of its parents that has steps. -/
theorem Above.steps (h : p.Above q) : q.steps = [] ∨
    q.isAbsolute = p.isAbsolute ∧ ∃ more, more ≠ [] ∧ p.steps = q.steps ++ more := by
  induction h with
  | parent h => exact steps_of_parent? h
  | up _ h ih =>
    rcases steps_of_parent? h with hnone | ⟨habsolute, more, hmore, hsteps⟩
    · exact .inl hnone
    · rcases ih with hnone | ⟨habsolute', more', -, hsteps'⟩
      · rw [hnone] at hsteps
        exact absurd (List.append_eq_nil_iff.1 hsteps.symm).2 hmore
      · refine .inr ⟨habsolute.trans habsolute', more ++ more', by simp [hmore], ?_⟩
        rw [hsteps', hsteps, List.append_assoc]

end Path

namespace Disk

variable {d d' : Disk} {p q : Path} {l x y : Location} {s : String} {names : List String}
  {fault : Fault}

/-! ## Where steps down lead -/

theorem of_enter (hidle : Path.isIdle s = false) (hup : s ≠ "..") (h : d.enter l s = .ok x) :
    x = l ++ [s] := by
  rw [enter_of_name hidle hup] at h
  split at h
  · cases h
  · split at h <;> cases h
    rfl

theorem foldlM_enter_eq (hnames : ∀ s ∈ names, Path.isIdle s = false ∧ s ≠ "..")
    (h : names.foldlM d.enter l = .ok x) : x = l ++ names := by
  induction names generalizing l with
  | nil =>
    cases h
    exact (List.append_nil x).symm
  | cons s names ih =>
    obtain ⟨⟨hidle, hup⟩, hrest⟩ := List.forall_mem_cons.1 hnames
    rw [List.foldlM_cons] at h
    obtain ⟨next, hs, h⟩ := exists_of_bind_eq_ok h
    obtain rfl := of_enter hidle hup hs
    rw [ih hrest h, List.append_assoc]
    rfl

/-- A part of the way of a path that only leads down. -/
theorem foldlM_enter_eq_of_down (hdown : ".." ∉ p.steps) (hnames : ∀ s ∈ names, s ∈ p.steps)
    (h : names.foldlM d.enter l = .ok x) : x = l ++ names := by
  refine foldlM_enter_eq (fun s hs => ⟨Path.isIdle_of_mem_steps (hnames s hs), ?_⟩) h
  rintro rfl
  exact hdown (hnames _ hs)

/-- A path that only leads down leads where its steps say. -/
theorem Names.eq_of_down (h : d.Names p x) (hdown : ".." ∉ p.steps) :
    x = d.start p ++ p.steps := by
  obtain ⟨before, name, directory, hsteps, hwalk, -, rfl⟩ := of_names_steps h
  have hbefore : ∀ s ∈ before, s ∈ p.steps := by
    intro s hs
    rw [hsteps]
    exact List.mem_append_left _ hs
  rw [foldlM_enter_eq_of_down hdown hbefore hwalk, hsteps, List.append_assoc]

/-- A directory that is created for a path that only leads down lies on the way. -/
theorem of_createDirectory_down (h : d.createDirectory q = .ok d') (habove : p.Above q)
    (hdown : ".." ∉ p.steps) : ∃ front more, front ≠ [] ∧ more ≠ [] ∧
      p.steps = front ++ more ∧ d' = d.insert (d.start p ++ front) .directory := by
  obtain ⟨⟨directory, name?, asDirectory⟩, hlocate, h⟩ := exists_of_bind_eq_ok h
  obtain ⟨found?, hfind, h⟩ := exists_of_bind_eq_ok h
  cases name? with
  | none => cases h
  | some name =>
    obtain ⟨-, before, hsteps, hwalk⟩ := of_locate_steps hlocate
    cases found? with
    | some entry => cases h
    | none =>
      cases h
      rcases habove.steps with hnone | ⟨habsolute, more, hmore, hp⟩
      · rw [hnone] at hsteps
        simp at hsteps
      · have hbefore : ∀ s ∈ before, s ∈ p.steps := by
          intro s hs
          rw [hp, hsteps]
          exact List.mem_append_left _ (List.mem_append_left _ hs)
        have hdirectory : directory = d.start q ++ before :=
          foldlM_enter_eq_of_down hdown hbefore hwalk
        have hstart : d.start q = d.start p := by rw [start, start, habsolute]
        refine ⟨q.steps, more, by simp [hsteps], hmore, hp, ?_⟩
        rw [Target.location, hdirectory, hstart, hsteps, List.append_assoc]
        rfl

/-- Nothing is put where the path itself leads. -/
theorem Makes.entry_of_down (h : d.Makes p.Above d') (hdown : ".." ∉ p.steps) :
    d'.entry? (d.start p ++ p.steps) = d.entry? (d.start p ++ p.steps) := by
  induction h with
  | none => rfl
  | @one between created q before habove hcreate ih =>
    have hstart : between.start p = d.start p := by
      rw [start, start, before.grown.workingDirectory]
    obtain ⟨front, more, hfront, hmore, hsteps, rfl⟩ := of_createDirectory_down hcreate habove hdown
    rw [entryAt_insert (by simp [hfront]), if_neg, ih]
    rw [hstart, hsteps]
    simp [hmore]

/-! ## Trees -/

/-- Every entry but the root lies in a directory. -/
def IsTree (d : Disk) : Prop :=
  ∀ x name, d.entry? (x ++ [name]) ≠ none → d.entry? x = some .directory

theorem IsTree.entry_below (h : d.IsTree) (hx : d.entry? x ≠ some .directory) {more : Location}
    (hmore : more ≠ []) : d.entry? (x ++ more) = none := by
  induction more using List.reverseRecOn with
  | nil => exact absurd rfl hmore
  | append_singleton more name ih =>
    by_contra hentry
    rw [← List.append_assoc] at hentry
    have hdirectory := h _ _ hentry
    cases more with
    | nil => exact hx (by simpa using hdirectory)
    | cons s more =>
      rw [ih (List.cons_ne_nil s more)] at hdirectory
      cases hdirectory

theorem IsTree.entry_append (h : d.IsTree) (hx : d.entry? x = none) (more : Location) :
    d.entry? (x ++ more) = none := by
  by_cases hmore : more = []
  · rw [hmore, List.append_nil, hx]
  · exact h.entry_below (by simp [hx]) hmore

section Walks

variable {paths : Path → Prop}

theorem enter_of_short (hidle : Path.isIdle s = false) (hup : s ≠ "..")
    (hshort : isTooLong s = false) : d.enter l s =
      match d.entry? (l ++ [s]) with
      | none => .error .notFound
      | some (.file _) => .error .notDirectory
      | some .directory => .ok (l ++ [s]) := by
  rw [enter_of_name hidle hup, hshort]
  rfl

variable (hnames : ∀ s ∈ names, Path.isIdle s = false ∧ s ≠ ".." ∧ isTooLong s = false)

include hnames

/-- Below what was missing a walk ends at a missing entry, or it goes through new directories. -/
theorem Grown.walk_below (h : Grown paths d d')
    (hmissing : ∀ more, more ≠ [] → d.entry? (l ++ more) = none) :
    names.foldlM d'.enter l = .error .notFound ∨ ∃ y, names.foldlM d'.enter l = .ok y := by
  induction names generalizing l with
  | nil => exact .inr ⟨l, rfl⟩
  | cons s names ih =>
    obtain ⟨⟨hidle, hup, hshort⟩, hrest⟩ := List.forall_mem_cons.1 hnames
    rw [List.foldlM_cons, enter_of_short hidle hup hshort]
    cases hentry : d'.entry? (l ++ [s]) with
    | none => exact .inl rfl
    | some entry =>
      cases entry with
      | file content =>
        have hold := h.file_iff.1 hentry
        rw [hmissing [s] (List.cons_ne_nil s [])] at hold
        cases hold
      | directory =>
        refine ih hrest fun more hmore => ?_
        rw [List.append_assoc]
        exact hmissing _ (by simp)

/-- A walk down that failed fails again, unless the directories that it missed were created. -/
theorem Grown.walk_again (h : Grown paths d d') (htree : d.IsTree)
    (hwalk : names.foldlM d.enter l = .error fault) :
    names.foldlM d'.enter l = .error fault ∨
      fault = .notFound ∧ d.entry? (l ++ names) = none ∧ ∃ y, names.foldlM d'.enter l = .ok y := by
  induction names generalizing l with
  | nil => cases hwalk
  | cons s names ih =>
    obtain ⟨⟨hidle, hup, hshort⟩, hrest⟩ := List.forall_mem_cons.1 hnames
    have hwhole : l ++ s :: names = l ++ [s] ++ names := List.append_cons l s names
    rw [List.foldlM_cons, enter_of_short hidle hup hshort] at hwalk ⊢
    rw [hwhole]
    cases hentry : d.entry? (l ++ [s]) with
    | none =>
      rw [hentry] at hwalk
      cases hwalk
      cases hentry' : d'.entry? (l ++ [s]) with
      | none => exact .inl rfl
      | some entry =>
        cases entry with
        | file content =>
          rw [h.file_iff.1 hentry'] at hentry
          cases hentry
        | directory =>
          have hmissing : ∀ more, more ≠ [] → d.entry? (l ++ [s] ++ more) = none :=
            fun more _ => htree.entry_append hentry more
          rcases h.walk_below hrest hmissing with hmissed | hwalked
          · exact .inl hmissed
          · exact .inr ⟨rfl, htree.entry_append hentry names, hwalked⟩
    | some entry =>
      rw [hentry] at hwalk
      cases entry with
      | file content =>
        cases hwalk
        rw [h.file_iff.2 hentry]
        exact .inl rfl
      | directory =>
        rw [h.toExtends.directory _ hentry]
        exact ih hrest hwalk

end Walks

/-! ## Files that are read the same -/

/-- Whatever directories above the path are created, the file is read the same. -/
def Steady (d : Disk) (p : Path) : Prop :=
  ∀ d', d.Makes p.Above d' → d'.readFile p = d.readFile p

theorem Lacks.steady (h : d.Lacks p) : d.Steady p := by
  intro d' hmakes
  rw [h d' hmakes, h.readFile]

/-- Where the directory of the path is there, no directory is left to be created. -/
theorem Steady.of_walked (h : ∃ x, p.steps.dropLast.foldlM d.enter (d.start p) = .ok x) :
    d.Steady p := by
  intro d' hmakes
  rw [hmakes.eq_of_walked h]

/-- A path that only leads down does not come to anything else when directories are created. -/
theorem Steady.of_down (htree : d.IsTree) (hdown : ".." ∉ p.steps)
    (hshort : ∀ s ∈ p.steps, isTooLong s = false) : d.Steady p := by
  intro d' hmakes
  cases hfault : pathFault? p with
  | some fault =>
    rw [readFile_eq, readFile_eq, locate_eq, locate_eq, hfault]
    rfl
  | none =>
    rcases List.eq_nil_or_concat p.steps with hnone | ⟨before, name, hsteps⟩
    · exact Steady.of_walked ⟨_, by rw [hnone]; rfl⟩ d' hmakes
    rw [List.concat_eq_append] at hsteps
    have hmem : ∀ s ∈ before, s ∈ p.steps := by
      intro s hs
      rw [hsteps]
      exact List.mem_append_left _ hs
    have hname : name ∈ p.steps := by simp [hsteps]
    have hup : name ≠ ".." := ne_of_mem_of_not_mem hname hdown
    have hstart : d'.start p = d.start p := by
      rw [start, start, hmakes.grown.workingDirectory]
    cases hwalk : before.foldlM d.enter (d.start p) with
    | ok directory =>
      exact Steady.of_walked ⟨directory, by rw [hsteps, List.dropLast_concat, hwalk]⟩ d' hmakes
    | error fault =>
      have hread : d.readFile p = .error fault := by
        rw [readFile_eq, locate_of_not_walked hfault hsteps hup hwalk]
        rfl
      have hnames : ∀ s ∈ before, Path.isIdle s = false ∧ s ≠ ".." ∧ isTooLong s = false :=
        fun s hs => ⟨Path.isIdle_of_mem_steps (hmem s hs), ne_of_mem_of_not_mem (hmem s hs) hdown,
          hshort s (hmem s hs)⟩
      have hagain := hmakes.grown.walk_again hnames htree hwalk
      rcases hagain with hfails | ⟨rfl, hmissing, directory, hwalked⟩
      · rw [← hstart] at hfails
        rw [hread, readFile_eq, locate_of_not_walked hfault hsteps hup hfails]
        rfl
      · have hdirectory : directory = d.start p ++ before :=
          foldlM_enter_eq_of_down hdown hmem hwalked
        have hentry := hmakes.entry_of_down hdown
        rw [hsteps, ← List.append_assoc, htree.entry_append hmissing] at hentry
        rw [← hstart] at hwalked
        rw [hread, readFile_eq_notFound_iff hfault hsteps hup hwalked, hdirectory]
        exact ⟨hshort name hname, hentry⟩

end Disk

end SchemaCodegen
