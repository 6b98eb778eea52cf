import SchemaCodegen.Disk.Basic

/-!
# What operations do to entries

Where a path leads depends on directories alone (`LeadsTo.mono`), so writing, copying, moving and
removing files leaves all paths where they led. Each operation on a file comes down to the one
location that its path names (`Names`) and the entry that is there.
-/

namespace SchemaCodegen.Disk

section Entries

variable {d : Disk} {l x : Location} {e : Entry}

theorem entryAt_insert (hl : l ≠ []) :
    entry? (d.insert l e) x = if x = l then some e else d.entry? x := by
  unfold entry? insert
  by_cases hx : x = []
  · subst hx
    have hne : ¬ [] = l := fun h => hl h.symm
    simp [hne]
  · have hempty : x.isEmpty = false := by simpa using hx
    simp only [hempty, Bool.false_eq_true, if_false, Std.ExtTreeMap.getElem?_insert]
    by_cases h : x = l
    · simp [h]
    · have hne : l ≠ x := fun e => h e.symm
      simp [h, hne]

theorem entryAt_erase (hl : l ≠ []) :
    entry? (d.erase l) x = if x = l then none else d.entry? x := by
  unfold entry? erase
  by_cases hx : x = []
  · subst hx
    have hne : ¬ [] = l := fun h => hl h.symm
    simp [hne]
  · have hempty : x.isEmpty = false := by simpa using hx
    simp only [hempty, Bool.false_eq_true, if_false, Std.ExtTreeMap.getElem?_erase]
    by_cases h : x = l
    · simp [h]
    · have hne : l ≠ x := fun e => h e.symm
      simp [h, hne]

/-- Disks with the same entries are the same. -/
theorem eq_of_entries {d' : Disk} (workingDirectory : d'.workingDirectory = d.workingDirectory)
    (entries : ∀ x, d'.entry? x = d.entry? x)
    (root : d'.entries[([] : Location)]? = d.entries[([] : Location)]?) : d' = d := by
  have hmap : d'.entries = d.entries := by
    refine Std.ExtTreeMap.ext_getElem? fun x => ?_
    cases x with
    | nil => exact root
    | cons name names => exact entries (name :: names)
  cases d
  cases d'
  cases workingDirectory
  cases hmap
  rfl

end Entries

/-! ## Where paths lead -/

/-- Why a path leads nowhere on any disk. -/
def pathFault? (p : Path) : Option Fault :=
  if p.isEmpty then some .notFound
  else if p.text.toList.contains '\x00' then some .nulInPath
  else if pathLimit < p.text.utf8ByteSize then some .nameTooLong
  else none

/-- Where a walk starts. -/
def start (d : Disk) (p : Path) : Location :=
  if p.isAbsolute then [] else d.workingDirectory

/-- The walk to the last of the steps. -/
def walk (d : Disk) (p : Path) : Except Fault Target :=
  match (p.segments.filter (· != "")).getLast? with
  | none => .ok ⟨d.start p, none, true⟩
  | some last => do
    let directory ← (p.segments.filter (· != "")).dropLast.foldlM d.enter (d.start p)
    if last == "." || last == ".." then
      return ⟨← d.enter directory last, none, true⟩
    else return ⟨directory, some last, p.segments.getLast? == some ""⟩

theorem locate_eq (d : Disk) (p : Path) :
    d.locate p = match pathFault? p with
      | some fault => .error fault
      | none => d.walk p := by
  unfold locate pathFault?
  by_cases hempty : p.isEmpty = true
  · rw [if_pos hempty, if_pos hempty]
    rfl
  · rw [if_neg hempty, if_neg hempty]
    by_cases hnul : p.text.toList.contains '\x00' = true
    · rw [if_pos hnul, if_pos hnul]
      rfl
    · rw [if_neg hnul, if_neg hnul]
      by_cases hlong : pathLimit < p.text.utf8ByteSize
      · rw [if_pos hlong, if_pos hlong]
        rfl
      · rw [if_neg hlong, if_neg hlong]
        rfl

/-- The second disk has at least the directories of the first. -/
structure Extends (d d' : Disk) : Prop where
  workingDirectory : d'.workingDirectory = d.workingDirectory
  directory : ∀ x, d.entry? x = some .directory → d'.entry? x = some .directory

/-- Directories are where they were, and what is kept for the root, which is one in any case. -/
structure Stays (d d' : Disk) : Prop extends Extends d d' where
  root : d'.entries[([] : Location)]? = d.entries[([] : Location)]?

/-- A walk along the path ends at the location. -/
def LeadsTo (d : Disk) (p : Path) (x : Location) : Prop :=
  ∃ target, d.locate p = .ok target ∧ target.location = x

/-- A file at the location can be reached by the path. -/
def Names (d : Disk) (p : Path) (x : Location) : Prop :=
  ∃ directory name, d.locate p = .ok ⟨directory, some name, false⟩ ∧ isTooLong name = false ∧
    x = directory ++ [name]

section Walk

variable {d d' : Disk} {p : Path} {x y : Location}

theorem Extends.refl (d : Disk) : Extends d d :=
  ⟨rfl, fun _ hx => hx⟩

theorem Extends.trans {d'' : Disk} (h : Extends d d') (h' : Extends d' d'') : Extends d d'' :=
  ⟨h'.workingDirectory.trans h.workingDirectory, fun x hx => h'.directory x (h.directory x hx)⟩

theorem Extends.enter (h : Extends d d') {l l' : Location} {segment : String}
    (henter : d.enter l segment = .ok l') : d'.enter l segment = .ok l' := by
  unfold Disk.enter at henter ⊢
  split
  · next hidle =>
    rw [if_pos hidle] at henter
    exact henter
  · next hidle =>
    rw [if_neg hidle] at henter
    split
    · next hup =>
      rw [if_pos hup] at henter
      exact henter
    · next hup =>
      rw [if_neg hup] at henter
      split
      · next hlong =>
        rw [if_pos hlong] at henter
        exact henter
      · next hlong =>
        rw [if_neg hlong] at henter
        cases hentry : d.entry? (l ++ [segment]) with
        | none => rw [hentry] at henter; cases henter
        | some entry =>
          cases entry with
          | file content => rw [hentry] at henter; cases henter
          | directory =>
            rw [hentry] at henter
            rw [h.directory _ hentry]
            exact henter

theorem Extends.foldlM_enter (h : Extends d d') {segments : List String} {l l' : Location}
    (hwalk : segments.foldlM d.enter l = .ok l') : segments.foldlM d'.enter l = .ok l' := by
  induction segments generalizing l with
  | nil => exact hwalk
  | cons segment segments ih =>
    rw [List.foldlM_cons] at hwalk ⊢
    cases henter : d.enter l segment with
    | error fault => rw [henter] at hwalk; cases hwalk
    | ok next =>
      rw [henter] at hwalk
      rw [h.enter henter]
      exact ih hwalk

theorem Extends.walk (h : Extends d d') {target : Target} (hwalk : d.walk p = .ok target) :
    d'.walk p = .ok target := by
  unfold Disk.walk at hwalk ⊢
  have hstart : d'.start p = d.start p := by rw [start, start, h.workingDirectory]
  rw [hstart]
  cases hlast : (p.segments.filter (· != "")).getLast? with
  | none =>
    rw [hlast] at hwalk
    exact hwalk
  | some last =>
    rw [hlast] at hwalk
    cases hfold : (p.segments.filter (· != "")).dropLast.foldlM d.enter (d.start p) with
    | error fault => simp only [hfold, bind, Except.bind, reduceCtorEq] at hwalk
    | ok directory =>
      simp only [hfold, h.foldlM_enter hfold, bind, Except.bind] at hwalk ⊢
      split at hwalk
      · next hdots =>
        rw [if_pos hdots]
        cases henter : d.enter directory last with
        | error fault => simp only [henter, reduceCtorEq] at hwalk
        | ok location =>
          rw [henter] at hwalk
          rw [h.enter henter]
          exact hwalk
      · next hdots =>
        rw [if_neg hdots]
        exact hwalk

theorem Extends.locate (h : Extends d d') {target : Target} (hlocate : d.locate p = .ok target) :
    d'.locate p = .ok target := by
  rw [locate_eq] at hlocate ⊢
  cases hfault : pathFault? p with
  | some fault => rw [hfault] at hlocate; cases hlocate
  | none =>
    rw [hfault] at hlocate
    exact h.walk hlocate

theorem LeadsTo.mono (hx : d.LeadsTo p x) (h : Extends d d') : d'.LeadsTo p x := by
  obtain ⟨target, hlocate, hlocation⟩ := hx
  exact ⟨target, h.locate hlocate, hlocation⟩

theorem Names.mono (hx : d.Names p x) (h : Extends d d') : d'.Names p x := by
  obtain ⟨directory, name, hlocate, hlong, hlocation⟩ := hx
  exact ⟨directory, name, h.locate hlocate, hlong, hlocation⟩

theorem Names.leadsTo (hx : d.Names p x) : d.LeadsTo p x := by
  obtain ⟨directory, name, hlocate, -, rfl⟩ := hx
  exact ⟨_, hlocate, rfl⟩

theorem LeadsTo.unique (hx : d.LeadsTo p x) (hy : d.LeadsTo p y) : x = y := by
  obtain ⟨target, hlocate, rfl⟩ := hx
  obtain ⟨target', hlocate', rfl⟩ := hy
  rw [hlocate] at hlocate'
  cases hlocate'
  rfl

theorem Names.unique (hx : d.Names p x) (hy : d.Names p y) : x = y :=
  hx.leadsTo.unique hy.leadsTo

theorem Names.ne_nil (hx : d.Names p x) : x ≠ [] := by
  obtain ⟨directory, name, -, -, rfl⟩ := hx
  simp

/-- A walk to a last name takes all other steps first. -/
theorem of_locate {directory : Location} {name : String} {asDirectory : Bool}
    (h : d.locate p = .ok ⟨directory, some name, asDirectory⟩) :
    (p.segments.filter (· != "")).getLast? = some name ∧ (name ≠ "." ∧ name ≠ "..") ∧
      (p.segments.filter (· != "")).dropLast.foldlM d.enter (d.start p) = .ok directory ∧
      asDirectory = (p.segments.getLast? == some "") := by
  rw [locate_eq] at h
  cases hfault : pathFault? p with
  | some fault => rw [hfault] at h; cases h
  | none =>
    rw [hfault] at h
    change d.walk p = _ at h
    unfold Disk.walk at h
    cases hlast : (p.segments.filter (· != "")).getLast? with
    | none => rw [hlast] at h; cases h
    | some last =>
      rw [hlast] at h
      cases hfold : (p.segments.filter (· != "")).dropLast.foldlM d.enter (d.start p) with
      | error fault => simp only [hfold, bind, Except.bind, reduceCtorEq] at h
      | ok directory =>
        simp only [hfold, bind, Except.bind] at h
        split at h
        · cases henter : d.enter directory last with
          | error fault => simp only [henter, reduceCtorEq] at h
          | ok location => rw [henter] at h; cases h
        · next hdots =>
          cases h
          exact ⟨rfl, by simpa using hdots, rfl, rfl⟩

end Walk

/-! ## Operations on files -/

section Operations

variable {d d' : Disk} {p source target : Path} {x y : Location} {content : ByteArray}

theorem exists_of_bind_eq_ok {ε α β : Type} {outcome : Except ε α} {f : α → Except ε β} {b : β}
    (h : (outcome >>= f) = .ok b) : ∃ a, outcome = .ok a ∧ f a = .ok b := by
  cases outcome with
  | error fault => cases h
  | ok a => exact ⟨a, rfl, h⟩

theorem find_some_iff {directory : Location} {name : String} {asDirectory : Bool}
    {found? : Option Entry} : d.find ⟨directory, some name, asDirectory⟩ = .ok found? ↔
      isTooLong name = false ∧ d.entry? (directory ++ [name]) = found? := by
  change (if isTooLong name = true then Except.error Fault.nameTooLong
    else Except.ok (d.entry? (directory ++ [name]))) = _ ↔ _
  cases isTooLong name <;> simp

theorem stat_file_iff : d.stat p = .ok (x, .file content) ↔
    d.Names p x ∧ d.entry? x = some (.file content) := by
  constructor
  · intro h
    obtain ⟨⟨directory, name?, asDirectory⟩, hlocate, h⟩ := exists_of_bind_eq_ok h
    obtain ⟨found?, hfind, h⟩ := exists_of_bind_eq_ok h
    cases name? with
    | none =>
      cases hfind
      cases h
    | some name =>
      obtain ⟨hlong, hentry⟩ := find_some_iff.1 hfind
      cases found? with
      | none => cases h
      | some entry =>
        cases entry with
        | directory => cases h
        | file content' =>
          cases asDirectory with
          | true => cases h
          | false =>
            cases h
            exact ⟨⟨directory, name, hlocate, hlong, rfl⟩, hentry⟩
  · rintro ⟨⟨directory, name, hlocate, hlong, rfl⟩, hentry⟩
    rw [stat, hlocate]
    change (d.find ⟨directory, some name, false⟩ >>= _) = _
    rw [find_some_iff.2 ⟨hlong, hentry⟩]
    rfl

theorem readFile_iff : d.readFile p = .ok content ↔
    ∃ x, d.Names p x ∧ d.entry? x = some (.file content) := by
  constructor
  · intro h
    obtain ⟨⟨x, entry⟩, hstat, h⟩ := exists_of_bind_eq_ok h
    cases entry with
    | directory => cases h
    | file content =>
      cases h
      exact ⟨x, stat_file_iff.1 hstat⟩
  · rintro ⟨x, hx⟩
    rw [readFile, stat_file_iff.2 hx]
    rfl

theorem writeFile_iff : d.writeFile p content = .ok d' ↔
    ∃ x, d.Names p x ∧ d.entry? x ≠ some .directory ∧ d' = d.insert x (.file content) := by
  constructor
  · intro h
    obtain ⟨⟨directory, name?, asDirectory⟩, hlocate, h⟩ := exists_of_bind_eq_ok h
    cases asDirectory with
    | true => cases h
    | false =>
      obtain ⟨found?, hfind, h⟩ := exists_of_bind_eq_ok (show (d.find _ >>= _) = _ from h)
      cases name? with
      | none =>
        cases hfind
        cases h
      | some name =>
        obtain ⟨hlong, hentry⟩ := find_some_iff.1 hfind
        have hnames : d.Names p (directory ++ [name]) := ⟨directory, name, hlocate, hlong, rfl⟩
        refine ⟨_, hnames, ?_, ?_⟩
        · rw [hentry]
          rintro rfl
          cases h
        · split at h
          · cases h
          · cases h
            rfl
  · rintro ⟨x, ⟨directory, name, hlocate, hlong, rfl⟩, hentry, rfl⟩
    rw [writeFile, hlocate]
    change (d.find ⟨directory, some name, false⟩ >>= _) = _
    rw [find_some_iff.2 ⟨hlong, rfl⟩]
    simp only [bind, Except.bind]
    rfl

theorem copyFile_iff : d.copyFile source target = .ok d' ↔
    ∃ content, d.readFile source = .ok content ∧ d.writeFile target content = .ok d' := by
  constructor
  · intro h
    obtain ⟨⟨x, entry⟩, hstat, h⟩ := exists_of_bind_eq_ok h
    cases entry with
    | directory => cases h
    | file content => exact ⟨content, readFile_iff.2 ⟨x, stat_file_iff.1 hstat⟩, h⟩
  · rintro ⟨content, hread, hwrite⟩
    obtain ⟨x, hx⟩ := readFile_iff.1 hread
    rw [copyFile, stat_file_iff.2 hx]
    exact hwrite

theorem removeFile_iff : d.removeFile p = .ok d' ↔
    ∃ x content, d.Names p x ∧ d.entry? x = some (.file content) ∧ d' = d.erase x := by
  constructor
  · intro h
    obtain ⟨⟨x, entry⟩, hstat, h⟩ := exists_of_bind_eq_ok h
    cases entry with
    | directory => cases h
    | file content =>
      cases h
      obtain ⟨hnames, hentry⟩ := stat_file_iff.1 hstat
      exact ⟨x, content, hnames, hentry, rfl⟩
  · rintro ⟨x, content, hnames, hentry, rfl⟩
    rw [removeFile, stat_file_iff.2 ⟨hnames, hentry⟩]
    rfl

/-- A file that is moved leaves its place and takes that of the target. -/
theorem of_rename_ok (h : d.rename source target = .ok d') :
    ∃ x y content, d.Names source x ∧ d.entry? x = some (.file content) ∧ d.Names target y ∧
      d.entry? y ≠ some .directory ∧ d' = (d.erase x).insert y (.file content) := by
  obtain ⟨⟨directory, name?, asDirectory⟩, hsource, h⟩ := exists_of_bind_eq_ok h
  obtain ⟨⟨directory', name'?, asDirectory'⟩, htarget, h⟩ := exists_of_bind_eq_ok h
  cases name? with
  | none => cases h
  | some name =>
    cases name'? with
    | none => cases h
    | some name' =>
      obtain ⟨found?, hfind, h⟩ := exists_of_bind_eq_ok (show (d.find _ >>= _) = _ from h)
      obtain ⟨hlong, hentry⟩ := find_some_iff.1 hfind
      cases found? with
      | none => cases h
      | some entry =>
        cases entry with
        | directory => cases h
        | file content =>
          obtain ⟨found'?, hfind', h⟩ := exists_of_bind_eq_ok (show (d.find _ >>= _) = _ from h)
          obtain ⟨hlong', hentry'⟩ := find_some_iff.1 hfind'
          cases asDirectory with
          | true => cases h
          | false =>
            cases asDirectory' with
            | true => cases h
            | false =>
              refine ⟨_, _, content, ⟨directory, name, hsource, hlong, rfl⟩, hentry,
                ⟨directory', name', htarget, hlong', rfl⟩, ?_, ?_⟩
              · rw [hentry']
                rintro rfl
                cases h
              · cases found'? with
                | none => cases h; rfl
                | some entry' =>
                  cases entry' with
                  | directory => cases h
                  | file content' => cases h; rfl

theorem rename_of_names (hx : d.Names source x) (hfile : d.entry? x = some (.file content))
    (hy : d.Names target y) (hfree : d.entry? y ≠ some .directory) :
    d.rename source target = .ok ((d.erase x).insert y (.file content)) := by
  obtain ⟨directory, name, hsource, hlong, rfl⟩ := hx
  obtain ⟨directory', name', htarget, hlong', rfl⟩ := hy
  rw [rename, hsource, htarget]
  change (d.find ⟨directory, some name, false⟩ >>= _) = _
  rw [find_some_iff.2 ⟨hlong, hfile⟩]
  change (d.find ⟨directory', some name', false⟩ >>= _) = _
  rw [find_some_iff.2 ⟨hlong', rfl⟩]
  simp only [bind, Except.bind]
  rfl

/-- A path with nothing behind it names no entry. -/
theorem eq_none_of_probe (h : d.probe p = .ok false) (hx : d.Names p x) :
    d.entry? x = none := by
  obtain ⟨directory, name, hlocate, hlong, rfl⟩ := hx
  cases hentry : d.entry? (directory ++ [name]) with
  | none => rfl
  | some entry =>
    have hstat : ∃ found, d.stat p = .ok found := by
      rw [stat, hlocate]
      change ∃ found, (d.find ⟨directory, some name, false⟩ >>= _) = _
      rw [find_some_iff.2 ⟨hlong, hentry⟩]
      cases entry with
      | directory => exact ⟨_, rfl⟩
      | file content => exact ⟨_, rfl⟩
    obtain ⟨found, hstat⟩ := hstat
    rw [probe, hstat] at h
    cases h

/-! ## Directories stay -/

theorem Stays.refl (d : Disk) : Stays d d :=
  ⟨.refl d, rfl⟩

theorem Stays.trans {d'' : Disk} (h : Stays d d') (h' : Stays d' d'') : Stays d d'' :=
  ⟨h.toExtends.trans h'.toExtends, h'.root.trans h.root⟩

theorem stays_insert {e : Entry} (hx : x ≠ []) (h : d.entry? x = some .directory → e = .directory) :
    Stays d (d.insert x e) := by
  refine ⟨⟨rfl, fun y hy => ?_⟩, ?_⟩
  · rw [entryAt_insert hx]
    split
    · next hyx =>
      rw [hyx] at hy
      rw [h hy]
    · exact hy
  · simp [insert, Std.ExtTreeMap.getElem?_insert, hx]

theorem stays_erase (hx : x ≠ []) (h : d.entry? x ≠ some .directory) : Stays d (d.erase x) := by
  refine ⟨⟨rfl, fun y hy => ?_⟩, ?_⟩
  · rw [entryAt_erase hx, if_neg, hy]
    rintro rfl
    exact h hy
  · simp [erase, Std.ExtTreeMap.getElem?_erase, hx]

theorem stays_of_writeFile (h : d.writeFile p content = .ok d') : Stays d d' := by
  obtain ⟨x, hnames, hfile, rfl⟩ := writeFile_iff.1 h
  exact stays_insert hnames.ne_nil fun hdirectory => absurd hdirectory hfile

theorem stays_of_removeFile (h : d.removeFile p = .ok d') : Stays d d' := by
  obtain ⟨x, content, hnames, hfile, rfl⟩ := removeFile_iff.1 h
  refine stays_erase hnames.ne_nil ?_
  rw [hfile]
  exact nofun

theorem stays_of_rename (h : d.rename source target = .ok d') : Stays d d' := by
  obtain ⟨x, y, content, hx, hfile, hy, hfile', rfl⟩ := of_rename_ok h
  have herase : Stays d (d.erase x) := by
    refine stays_erase hx.ne_nil ?_
    rw [hfile]
    exact nofun
  refine herase.trans (stays_insert hy.ne_nil fun hdirectory => ?_)
  rw [entryAt_erase hx.ne_nil] at hdirectory
  split at hdirectory
  · cases hdirectory
  · exact absurd hdirectory hfile'

end Operations

end SchemaCodegen.Disk
