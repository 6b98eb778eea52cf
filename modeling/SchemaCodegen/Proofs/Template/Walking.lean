import Mathlib.Data.List.Nodup
import SchemaCodegen.Proofs.Template.Caching
import SchemaCodegen.Proofs.Template.Names

/-!
# Finding every template file

The walk through the template root finds the template files at every depth and none twice
(`mem_templatesBelow_iff`, `nodup_templatesBelow`), and goes through exactly if all directories can
be listed (`Engine.runs_namesBelow_ok`). On a disk a path becomes too long for the disk before
directories nest too deep for the walk (`IsListable.depthLimit`).
-/

namespace SchemaCodegen

namespace Template

/-! ## Files below a directory -/

/-- What directories list: names, and whether each is a directory. -/
abbrev Listings := Path → Except Disk.Fault (List (String × Bool))

/-- Directories list each name once, and only names that lead to what is in them. -/
structure Listings.Regular (listing : Listings) : Prop where
  named : ∀ {directory entries}, listing directory = .ok entries →
    ∀ entry ∈ entries, Path.IsFileName entry.1
  nodup : ∀ {directory entries}, listing directory = .ok entries → (entries.map Prod.fst).Nodup

/-- The place seen from the directory above. -/
def Place.inside (name : String) (place : Place) : Place :=
  ⟨name :: place.parents, place.file⟩

/-- The files in a directory and below it. -/
inductive Below (listing : Listings) : Path → Place → Prop where
  | file {directory : Path} {entries : List (String × Bool)} {name : String}
      (hlist : listing directory = .ok entries) (hentry : (name, false) ∈ entries) :
      Below listing directory ⟨[], name⟩
  | inside {directory : Path} {entries : List (String × Bool)} {name : String} {place : Place}
      (hlist : listing directory = .ok entries) (hentry : (name, true) ∈ entries)
      (hbelow : Below listing (directory.join name) place) :
      Below listing directory (place.inside name)

/-- A template file below a directory. -/
structure Found (listing : Listings) (directory : Path) (place : Place) : Prop where
  below : Below listing directory place
  template : place.IsTemplate

/-- A directory that can be listed, with all that are below it; they nest less than `depth` deep. -/
def IsListable (listing : Listings) : Nat → Path → Prop
  | 0, _ => False
  | depth + 1, directory => ∃ entries, listing directory = .ok entries ∧
      ∀ name, (name, true) ∈ entries → IsListable listing depth (directory.join name)

instance decidableIsListable (listing : Listings) :
    ∀ depth directory, Decidable (IsListable listing depth directory)
  | 0, _ => .isFalse id
  | depth + 1, directory =>
    match hlist : listing directory with
    | .error _ => .isFalse fun ⟨_, hok, _⟩ => nomatch hlist.symm.trans hok
    | .ok entries =>
      have : ∀ entry : String × Bool,
          Decidable (IsListable listing depth (directory.join entry.1)) :=
        fun entry => decidableIsListable listing depth (directory.join entry.1)
      decidable_of_iff (∀ entry ∈ entries, entry.2 = true →
          IsListable listing depth (directory.join entry.1))
        ⟨fun h => ⟨entries, hlist, fun name hmem => h (name, true) hmem rfl⟩,
          fun ⟨_, hok, hbelow⟩ (name, isDirectory) hmem hdirectory => by
            cases hlist.symm.trans hok
            cases hdirectory
            exact hbelow name hmem⟩

/-- The template files of an entry of a directory, `below` being those of the entry itself. -/
def templatesOf (below : List Place) (name : String) (isDirectory : Bool) : List Place :=
  if isDirectory then below.map (Place.inside name)
  else if (Engine.templateName? name).isSome then [⟨[], name⟩] else []

/-- The template files below a directory in the order of the walk. -/
def templatesBelow (listing : Listings) : Nat → Path → List Place
  | 0, _ => []
  | depth + 1, directory =>
    match listing directory with
    | .error _ => []
    | .ok entries => entries.flatMap fun (name, isDirectory) =>
      templatesOf (templatesBelow listing depth (directory.join name)) name isDirectory

variable {listing : Listings} {directory : Path} {place : Place} {depth : Nat}

theorem Below.isListed (hregular : listing.Regular) (h : Below listing directory place) :
    place.IsListed := by
  induction h with
  | file hlist hentry =>
    intro s hs
    rw [List.mem_singleton.1 hs]
    exact hregular.named hlist _ hentry
  | inside hlist hentry _ ih =>
    intro s hs
    rcases List.mem_cons.1 hs with rfl | hs
    · exact hregular.named hlist _ hentry
    · exact ih s hs

theorem mem_templatesOf_file {below : List Place} {name : String} :
    place ∈ templatesOf below name false ↔ place.IsTemplate ∧ place = ⟨[], name⟩ := by
  change place ∈ (if (Engine.templateName? name).isSome then _ else _) ↔ _
  split
  · next htemplate =>
    rw [List.mem_singleton]
    refine ⟨fun h => ⟨?_, h⟩, And.right⟩
    rw [h]
    exact htemplate
  · next hother =>
    refine iff_of_false List.not_mem_nil ?_
    rintro ⟨htemplate, rfl⟩
    exact hother htemplate

/-- What is found under an entry starts with its name. -/
theorem head?_of_mem_templatesOf {below : List Place} {name : String} {isDirectory : Bool}
    (h : place ∈ templatesOf below name isDirectory) :
    (place.parents ++ [place.file]).head? = some name := by
  cases isDirectory with
  | true =>
    obtain ⟨inner, -, rfl⟩ := List.mem_map.1 h
    rfl
  | false => rw [(mem_templatesOf_file.1 h).2]; rfl

theorem nodup_templatesOf {below : List Place} (h : below.Nodup) (name : String)
    (isDirectory : Bool) : (templatesOf below name isDirectory).Nodup := by
  unfold templatesOf
  split
  · refine h.map fun p q hpq => ?_
    cases p
    cases q
    cases hpq
    rfl
  · split
    · exact List.nodup_singleton _
    · exact List.nodup_nil

/-- The walk finds the template files, and finds them all. -/
theorem mem_templatesBelow_iff (h : IsListable listing depth directory) :
    place ∈ templatesBelow listing depth directory ↔ Found listing directory place := by
  induction depth generalizing directory place with
  | zero => exact h.elim
  | succ depth ih =>
    obtain ⟨entries, hlist, hbelow⟩ := h
    rw [templatesBelow, hlist]
    dsimp only
    rw [List.mem_flatMap]
    constructor
    · rintro ⟨⟨name, isDirectory⟩, hentry, hplace⟩
      cases isDirectory with
      | true =>
        obtain ⟨inner, hinner, rfl⟩ := List.mem_map.1 hplace
        obtain ⟨hinside, htemplate⟩ := (ih (hbelow name hentry)).1 hinner
        exact ⟨.inside hlist hentry hinside, htemplate⟩
      | false =>
        obtain ⟨htemplate, rfl⟩ := mem_templatesOf_file.1 hplace
        exact ⟨.file hlist hentry, htemplate⟩
    · rintro ⟨hplace, htemplate⟩
      cases hplace with
      | @file _ entries' name hlist' hentry =>
        cases hlist.symm.trans hlist'
        exact ⟨(name, false), hentry, mem_templatesOf_file.2 ⟨htemplate, rfl⟩⟩
      | @inside _ entries' name inner hlist' hentry hinside =>
        cases hlist.symm.trans hlist'
        refine ⟨(name, true), hentry, ?_⟩
        exact List.mem_map_of_mem ((ih (hbelow name hentry)).2 ⟨hinside, htemplate⟩)

theorem found_iff {files : List Place} (h : IsListable listing depth directory)
    (hfiles : templatesBelow listing depth directory = files) :
    Found listing directory place ↔ place ∈ files := by
  rw [← hfiles, mem_templatesBelow_iff h]

/-- The walk finds no file twice. -/
theorem nodup_templatesBelow (hregular : listing.Regular) (depth : Nat) (directory : Path) :
    (templatesBelow listing depth directory).Nodup := by
  induction depth generalizing directory with
  | zero => exact List.nodup_nil
  | succ depth ih =>
    rw [templatesBelow]
    split
    · exact List.nodup_nil
    next entries hlist =>
    refine List.nodup_flatMap.2 ⟨fun entry _ => nodup_templatesOf (ih _) _ _, ?_⟩
    refine (List.pairwise_map.1 (hregular.nodup hlist)).imp fun hne p hp hq => hne ?_
    exact Option.some.inj ((head?_of_mem_templatesOf hp).symm.trans (head?_of_mem_templatesOf hq))

namespace Engine

variable {σ : Type} {root : Path} {content : Contents} {s s' : σ} {parents names : List String}

/-- A machine that lists and reads what is given, and stays as it is. -/
def browsing (listing : Listings) (content : Contents) : machine.Step σ
  | .list path, s, reply, s' => reply = listing path ∧ s' = s
  | .read path, s, reply, s' => reply = content path ∧ s' = s
  | _, s, _, s' => s' = s

theorem runs_list {entries : List (String × Bool)} :
    Procedure.Runs (browsing listing content) (Job.list directory) s (.ok entries) s' ↔
      listing directory = .ok entries ∧ s' = s := by
  refine Job.runs_ofDisk_ok.trans (Script.runs_call.trans ?_)
  exact and_congr_left fun _ => eq_comm

/-- The names of template files under directories that lead to them. -/
def namesUnder (parents : List String) (files : List Place) : List String :=
  files.map fun place => "/".intercalate (parents ++ (place.parents ++ [place.stem]))

theorem namesUnder_inside (name : String) (files : List Place) :
    namesUnder parents (files.map (Place.inside name)) = namesUnder (parents ++ [name]) files := by
  rw [namesUnder, namesUnder, List.map_map]
  refine List.map_congr_left fun place _ => ?_
  simp [Place.inside, Place.stem]

/-- The names that one entry of a directory stands for. -/
def namesAt (depth : Nat) (parents : List String) (directory : Path) :
    String × Bool → Job (List String)
  | (name, isDirectory) =>
    if isDirectory then namesBelow depth (parents ++ [name]) (directory.join name)
    else
      match templateName? name with
      | some stem => return [String.intercalate "/" (parents ++ [stem])]
      | none => return []

theorem namesBelow_succ (depth : Nat) (parents : List String) (directory : Path) :
    namesBelow (depth + 1) parents directory = (do
      let entries ← Job.list directory
      let names ← entries.mapM (namesAt depth parents directory)
      return names.flatten) :=
  rfl

theorem runs_namesAt_ok
    (h : ∀ {directory : Path} {parents names : List String} {s' : σ},
      Procedure.Runs (browsing listing content) (namesBelow depth parents directory) s (.ok names)
        s' ↔
      IsListable listing depth directory ∧
        names = namesUnder parents (templatesBelow listing depth directory) ∧ s' = s)
    (entry : String × Bool) (names : List String) (s' : σ) :
    Procedure.Runs (browsing listing content) (namesAt depth parents directory entry) s (.ok names)
        s' ↔
      (entry.2 = true → IsListable listing depth (directory.join entry.1)) ∧
        names = namesUnder parents (templatesOf
          (templatesBelow listing depth (directory.join entry.1)) entry.1 entry.2) ∧ s' = s := by
  obtain ⟨name, isDirectory⟩ := entry
  cases isDirectory with
  | true =>
    refine h.trans ?_
    rw [← namesUnder_inside]
    simp [templatesOf]
  | false =>
    simp only [namesAt, Bool.false_eq_true, if_false, false_imp_iff, true_and, templatesOf]
    cases htemplate : templateName? name with
    | none => simp [namesUnder, eq_comm]
    | some stem => simp [namesUnder, Place.stem, htemplate, eq_comm]

/-- A walk goes through if all directories can be listed, and tells the names of what is found. -/
theorem runs_namesBelow_ok :
    Procedure.Runs (browsing listing content) (namesBelow depth parents directory) s (.ok names)
        s' ↔
      IsListable listing depth directory ∧
        names = namesUnder parents (templatesBelow listing depth directory) ∧ s' = s := by
  induction depth generalizing parents directory names s' with
  | zero =>
    refine iff_of_false (fun h => ?_) fun h => h.1
    cases (Procedure.runs_throw.1 h).1
  | succ depth ih =>
    rw [namesBelow_succ, Procedure.runs_bind_ok]
    constructor
    · rintro ⟨entries, t, hreply, h⟩
      obtain ⟨hlist, rfl⟩ := runs_list.1 hreply
      obtain ⟨found, t', hfound, hdone⟩ := Procedure.runs_bind_ok.1 h
      obtain ⟨hbelow, rfl, rfl⟩ :=
        (Procedure.runs_mapM_ok_iff fun entry _ => runs_namesAt_ok ih entry).1 hfound
      obtain ⟨hnames, rfl⟩ := Procedure.runs_pure.1 hdone
      refine ⟨⟨entries, hlist, fun name hmem => hbelow (name, true) hmem rfl⟩, ?_, rfl⟩
      rw [← Except.ok.inj hnames, templatesBelow, hlist, namesUnder, List.map_flatMap,
        List.flatMap_def]
      rfl
    · rintro ⟨⟨entries, hlist, hbelow⟩, rfl, rfl⟩
      refine ⟨entries, _, runs_list.2 ⟨hlist, rfl⟩, Procedure.runs_bind_ok.2 ⟨_, _,
        (Procedure.runs_mapM_ok_iff fun entry _ => runs_namesAt_ok ih entry).2
          ⟨fun entry hmem hdirectory => ?_, rfl, rfl⟩, ?_⟩⟩
      · obtain ⟨name, isDirectory⟩ := entry
        cases hdirectory
        exact hbelow name hmem
      · rw [Procedure.runs_pure, templatesBelow, hlist, namesUnder, List.map_flatMap,
          List.flatMap_def]
        exact ⟨rfl, rfl⟩

theorem namesUnder_nil (files : List Place) : namesUnder [] files = files.map Place.name :=
  rfl

theorem runs_namesBelow_unique {names names' : Outcome (List String)} {t t' : σ} {s : σ}
    {parents : List String}
    (h : Procedure.Runs (browsing listing content) (namesBelow depth parents directory) s names t)
    (h' : Procedure.Runs (browsing listing content) (namesBelow depth parents directory) s names'
      t') : names = names' ∧ t = t' := by
  have hasks : (namesBelow depth parents directory).Asks (Browses directory) :=
    asks_namesBelow (fun _ => trivial) depth parents directory
  refine hasks.unique (fun call s reply t reply' t' hcall hstep hstep' => ?_) h h'
  cases call with
  | read path => exact ⟨hstep.1.trans hstep'.1.symm, hstep.2.trans hstep'.2.symm⟩
  | list path => exact ⟨hstep.1.trans hstep'.1.symm, hstep.2.trans hstep'.2.symm⟩
  | _ => cases hcall

end Engine

end Template

/-! ## What a disk lists -/

namespace Disk

variable {d : Disk} {p : Path} {entries : List (String × Bool)}

theorem exists_children_of_listDirectory (h : d.listDirectory p = .ok entries) :
    pathFault? p = none ∧ ∃ location, entries =
      (d.children location).map fun (name, entry) => (name, entry == .directory) := by
  obtain ⟨⟨location, entry⟩, hstat, h⟩ := exists_of_bind_eq_ok h
  refine ⟨?_, location, ?_⟩
  · obtain ⟨target, hlocate, -⟩ := exists_of_bind_eq_ok hstat
    rw [locate_eq] at hlocate
    cases hfault : pathFault? p with
    | none => rfl
    | some fault =>
      rw [hfault] at hlocate
      cases hlocate
  · cases entry with
    | file content => cases h
    | directory => exact (Except.ok.inj h).symm

theorem of_pathFault?_eq_none (h : pathFault? p = none) :
    p.isEmpty = false ∧ p.text.utf8ByteSize ≤ pathLimit := by
  unfold pathFault? at h
  split at h
  · cases h
  next hfilled =>
  split at h
  · cases h
  split at h
  · cases h
  next hshort =>
  exact ⟨Bool.eq_false_iff.2 hfilled, Nat.le_of_not_lt hshort⟩

/-- An entry in a directory, by its name there. -/
def child? (location : Location) (e : Location × Entry) : Option (String × Entry) :=
  match e.1.getLast? with
  | some name => if e.1 = location ++ [name] then some (name, e.2) else none
  | none => none

theorem children_eq (d : Disk) (location : Location) :
    d.children location = d.entries.toList.filterMap (child? location) := rfl

theorem location_of_child? {location : Location} {e : Location × Entry} {child : String × Entry}
    (h : child? location e = some child) : e.1 = location ++ [child.1] := by
  unfold child? at h
  split at h
  · split at h
    · next hlocation =>
      cases h
      exact hlocation
    · cases h
  · cases h

theorem mem_keys_of_mem_children {location : Location} {child : String × Entry}
    (h : child ∈ d.children location) : location ++ [child.1] ∈ d.entries.keys := by
  rw [children_eq] at h
  obtain ⟨e, he, hchild⟩ := List.mem_filterMap.1 h
  rw [← location_of_child? hchild, ← Std.ExtTreeMap.map_fst_toList_eq_keys]
  exact List.mem_map_of_mem he

theorem nodup_children (d : Disk) (location : Location) :
    ((d.children location).map Prod.fst).Nodup := by
  have hkeys : d.entries.keys.Nodup := Std.ExtTreeMap.nodup_keys
  rw [← Std.ExtTreeMap.map_fst_toList_eq_keys] at hkeys
  rw [children_eq]
  refine List.pairwise_map.2 ((List.pairwise_map.1 hkeys).filterMap _ ?_)
  intro e e' hne child hchild child' hchild' hsame
  rw [location_of_child? hchild, location_of_child? hchild', hsame] at hne
  exact hne rfl

end Disk

namespace Template

/-- A disk lists what its entries are called. -/
theorem Listings.regular_listDirectory {d : Disk}
    (h : ∀ location ∈ d.entries.keys, ∀ name ∈ location, Path.IsFileName name) :
    Listings.Regular d.listDirectory where
  named hlist entry hentry := by
    obtain ⟨-, location, rfl⟩ := Disk.exists_children_of_listDirectory hlist
    obtain ⟨child, hchild, rfl⟩ := List.mem_map.1 hentry
    exact h _ (Disk.mem_keys_of_mem_children hchild) _ (by simp)
  nodup hlist := by
    obtain ⟨-, location, rfl⟩ := Disk.exists_children_of_listDirectory hlist
    rw [List.map_map]
    exact Disk.nodup_children _ location

/-- How long a path is with a slash behind it. -/
def reach (directory : Path) : Nat :=
  if directory.text.toList.getLast? = some '/' then directory.text.utf8ByteSize
  else directory.text.utf8ByteSize + 1

theorem utf8ByteSize_le_reach (directory : Path) : directory.text.utf8ByteSize ≤ reach directory ∧
    reach directory ≤ directory.text.utf8ByteSize + 1 := by
  unfold reach
  split <;> omega

/-- A name makes a path longer by a character at least, and a slash. -/
theorem reach_join {name : String} (h : Path.IsFileName name)
    (hroot : directory.isEmpty = false) : reach directory + 2 ≤ reach (directory.join name) := by
  have hfilled : 0 < name.utf8ByteSize :=
    Nat.pos_of_ne_zero fun hsize => h.ne_empty (String.utf8ByteSize_eq_zero_iff.1 hsize)
  have hrelative : ¬ (name.toList.head? == some '/') = true := fun hslash =>
    h.segment (List.mem_of_head? (beq_iff_eq.1 hslash))
  have hreach : ∀ front : String,
      reach ⟨front ++ name⟩ = front.utf8ByteSize + name.utf8ByteSize + 1 := by
    intro front
    have hlast : ¬ (front ++ name).toList.getLast? = some '/' := by
      rw [String.toList_append, List.getLast?_append_of_ne_nil _
        fun hnil => h.ne_empty (String.toList_eq_nil_iff.1 hnil)]
      exact fun hslash => h.segment (List.mem_of_getLast? hslash)
    rw [reach, if_neg hlast, String.utf8ByteSize_append]
  rw [Path.join, if_neg hrelative, hroot, Bool.false_or]
  by_cases hslash : directory.text.toList.getLast? = some '/'
  · rw [if_pos (beq_iff_eq.2 hslash), hreach, reach, if_pos hslash]
    omega
  · rw [if_neg fun hlast => hslash (beq_iff_eq.1 hlast), hreach, reach, if_neg hslash,
      String.utf8ByteSize_append]
    have hone : "/".utf8ByteSize = 1 := rfl
    omega

theorem IsListable.of_reach {d : Disk}
    (hnames : ∀ location ∈ d.entries.keys, ∀ name ∈ location, Path.IsFileName name)
    (h : IsListable d.listDirectory depth directory) {limit : Nat}
    (hlimit : Disk.pathLimit + 1 < reach directory + 2 * limit) :
    IsListable d.listDirectory limit directory := by
  induction depth generalizing directory limit with
  | zero => exact h.elim
  | succ depth ih =>
    obtain ⟨entries, hlist, hbelow⟩ := h
    obtain ⟨hfilled, hshort⟩ := Disk.of_pathFault?_eq_none
      (Disk.exists_children_of_listDirectory hlist).1
    have hreach := (utf8ByteSize_le_reach directory).2
    cases limit with
    | zero => omega
    | succ limit =>
      refine ⟨entries, hlist, fun name hname => ih (hbelow name hname) ?_⟩
      have hentry := (Listings.regular_listDirectory hnames).named hlist _ hname
      have hlonger := reach_join hentry hfilled
      dsimp only at hlonger
      omega

/-- Directories that a disk can list do not nest too deep for the walk. -/
theorem IsListable.depthLimit {d : Disk} {root : Path}
    (hnames : ∀ location ∈ d.entries.keys, ∀ name ∈ location, Path.IsFileName name)
    (h : IsListable d.listDirectory depth root) :
    IsListable d.listDirectory Engine.depthLimit root := by
  cases depth with
  | zero => exact h.elim
  | succ depth =>
    obtain ⟨entries, hlist, -⟩ := id h
    obtain ⟨hfilled, -⟩ := Disk.of_pathFault?_eq_none
      (Disk.exists_children_of_listDirectory hlist).1
    have hsize : 0 < root.text.utf8ByteSize := by
      refine Nat.pos_of_ne_zero fun hsize => ?_
      rw [Path.isEmpty, String.utf8ByteSize_eq_zero_iff.1 hsize] at hfilled
      cases hfilled
    have hreach := (utf8ByteSize_le_reach root).1
    refine IsListable.of_reach hnames h ?_
    rw [Disk.pathLimit, Engine.depthLimit]
    omega

end Template

end SchemaCodegen
