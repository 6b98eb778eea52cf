import SchemaCodegen.Proofs.Disk.Parents
import SchemaCodegen.Proofs.Disk.Resolution
import SchemaCodegen.Proofs.Text.Trimming
import SchemaCodegen.Template.Engine

/-!
# Names of template files

A template file that is found below the root is preloaded under a name that is made from its place,
and the name is turned back into a path when the file is read. The path is the one that the file was
found at exactly if the file is spelled plainly (`Place.exists_file_eq_path_iff`): its ending is
written as the one that is added, and the rest of the name is its own canonical spelling.
-/

namespace SchemaCodegen

/-! ## Canonical spellings -/

namespace Text

/-- Replacing a character changes one character at a time. -/
theorem replaceFrom_singleton (a b : Char) (cs : List Char) :
    replaceFrom [a] [b] 0 cs = cs.map fun c => if c = a then b else c := by
  induction cs with
  | nil => rfl
  | cons c cs ih =>
    have hstart : startsWith [a] (c :: cs) = (a == c) := by
      simp [startsWith, List.isPrefixOf]
    rw [replaceFrom, hstart, List.length_singleton, Nat.sub_self, ih, List.map_cons]
    by_cases hc : c = a
    · simp [hc]
    · simp [hc, Ne.symm hc]

end Text

namespace Template.Name

variable {name normalized : String}

/-- A slash for a backslash. -/
def slash (c : Char) : Char :=
  if c = '\\' then '/' else c

theorem slash_ne (c : Char) : slash c ≠ '\\' := by
  unfold slash
  split
  · decide
  · assumption

theorem canonical_eq (name : String) :
    canonical name = stem (String.ofList ((Text.trimChars name.toList).map slash)) := by
  have hreplace : Text.replaceFrom "\\".toList "/".toList 0 (Text.trimChars name.toList) =
      (Text.trimChars name.toList).map slash :=
    Text.replaceFrom_singleton '\\' '/' _
  rw [canonical, Text.replace, Text.trim, String.toList_ofList (l := Text.trimChars _), hreplace]

theorem stem_prefix (name : String) : (stem name).toList <+: name.toList := by
  unfold stem
  dsimp only
  split
  · rw [String.toList_ofList]
    exact List.take_prefix _ _
  · exact List.prefix_refl _

/-- A name that is spelled plainly: no blanks at its ends, no backslashes, and no ending of template
files. -/
structure IsPlain (name : String) : Prop where
  trimmed : Text.trim name = name
  slashed : '\\' ∉ name.toList
  bare : stem name = name

/-- The plain spellings are the canonical ones. -/
theorem canonical_eq_self_iff : canonical name = name ↔ IsPlain name := by
  constructor
  · intro h
    rw [canonical_eq] at h
    have htrim := Text.sublist_trimChars name.toList
    have hstem := stem_prefix (String.ofList ((Text.trimChars name.toList).map slash))
    rw [h, String.toList_ofList] at hstem
    -- No step makes a name longer, so each of them left it as it was.
    have hlength : (Text.trimChars name.toList).length = name.toList.length :=
      Nat.le_antisymm htrim.length_le (by simpa using hstem.length_le)
    have hsame := htrim.eq_of_length hlength
    rw [hsame] at h hstem
    have hmap : name.toList = name.toList.map slash := hstem.eq_of_length (by simp)
    refine ⟨by rw [Text.trim, hsame, String.ofList_toList], ?_, ?_⟩
    · intro hmem
      rw [hmap] at hmem
      obtain ⟨c, -, hc⟩ := List.mem_map.1 hmem
      exact slash_ne c hc
    · rwa [← hmap, String.ofList_toList] at h
  · rintro ⟨htrim, hslash, hstem⟩
    have hmap : name.toList.map slash = name.toList := by
      refine (List.map_congr_left fun c hc => ?_).trans (List.map_id _)
      exact if_neg (ne_of_mem_of_not_mem hc hslash)
    rw [Text.trim] at htrim
    have hsame : Text.trimChars name.toList = name.toList := by
      rw [← String.toList_ofList (l := Text.trimChars name.toList), htrim]
    rw [canonical_eq, hsame, hmap, String.ofList_toList, hstem]

theorem any_escapesRoot_eq_false_iff {p : Path} : p.components.any escapesRoot = false ↔
    p.isAbsolute = false ∧ ".." ∉ p.steps := by
  have hsteps : (p.steps.map Path.Component.ofSegment).any escapesRoot = false ↔
      ".." ∉ p.steps := by
    rw [List.any_map, List.any_eq_false]
    constructor
    · intro h hup
      exact h ".." hup rfl
    · intro h s hs
      have hs : (s == "..") = false := beq_false_of_ne (ne_of_mem_of_not_mem hs h)
      simp [Path.Component.ofSegment, hs, escapesRoot]
  unfold Path.components
  rw [List.any_append, Bool.or_eq_false_iff]
  refine and_congr ?_ hsteps
  cases p.isAbsolute with
  | true => simp [escapesRoot]
  | false => split <;> simp_all [escapesRoot]

/-- Names that lead upwards or to the root are refused, and the empty one. -/
theorem normalize_eq_ok_iff : normalize name = .ok normalized ↔ canonical name = normalized ∧
    normalized ≠ "" ∧ (⟨normalized⟩ : Path).isAbsolute = false ∧
      ".." ∉ (⟨normalized⟩ : Path).steps := by
  unfold normalize
  dsimp only
  generalize canonical name = spelled
  split
  · next hempty =>
    refine iff_of_false (by simp) ?_
    rintro ⟨rfl, hfilled, -⟩
    exact hfilled (String.isEmpty_iff.1 hempty)
  next hfilled =>
  have hfilled : spelled ≠ "" := fun h => hfilled (String.isEmpty_iff.2 h)
  split
  · next hescapes =>
    refine iff_of_false (by simp) ?_
    rintro ⟨rfl, -, hinside⟩
    rw [any_escapesRoot_eq_false_iff.2 hinside] at hescapes
    cases hescapes
  next hinside =>
  have hinside := any_escapesRoot_eq_false_iff.1 (Bool.eq_false_iff.2 hinside)
  rw [Except.ok.injEq]
  constructor
  · rintro rfl
    exact ⟨rfl, hfilled, hinside⟩
  · exact fun h => h.1

/-- A point at the end does not begin an ending. -/
theorem stem_concat_point (cs : List Char) :
    stem (String.ofList (cs ++ ['.'])) = String.ofList (cs ++ ['.']) := by
  unfold stem
  dsimp only
  split
  · next hsame =>
    have hsplit : (cs ++ ['.']).length - (extension.length + 1) ≤ cs.length := by
      rw [List.length_append, List.length_singleton]
      exact Nat.sub_le_of_le_add (Nat.add_le_add_left (Nat.le_add_left 1 extension.length) _)
    rw [String.toList_ofList, List.drop_append_of_le_length hsplit] at hsame
    have hlast := congrArg List.getLast? (beq_iff_eq.1 hsame)
    rw [List.map_append, List.map_singleton, List.getLast?_concat] at hlast
    exact absurd hlast (by decide)
  · rfl

/-- A last segment that leads up stays the last segment, whatever stands in front of it. -/
theorem normalize_up_ne_ok {lead : String} (hlead : lead = "" ∨ ∃ above, lead = above ++ "/") :
    normalize (lead ++ "..") ≠ .ok normalized := by
  have hspelled : ∃ front : List Char, (front = [] ∨ ∃ above, front = above ++ ['/']) ∧
      (Text.trimChars (lead ++ "..").toList).map slash = front ++ ['.', '.'] := by
    refine ⟨(Text.dropBlanks lead.toList).map slash, ?_, ?_⟩
    · rcases hlead with rfl | ⟨above, rfl⟩
      · exact .inl rfl
      · refine .inr ⟨(Text.dropBlanks above.toList).map slash, ?_⟩
        rw [String.toList_append]
        change (Text.dropBlanks (above.toList ++ ['/'])).map slash = _
        rw [Text.dropBlanks_append (by decide), List.map_append]
        rfl
    · rw [String.toList_append]
      change (Text.trimChars (lead.toList ++ ['.', '.'])).map slash = _
      rw [Text.trimChars, Text.dropBlanks_append (by decide), List.append_cons,
        Text.dropBlanksEnd_concat (by decide), List.map_append, List.map_append, List.append_assoc]
      rfl
  obtain ⟨front, hfront, hspelled⟩ := hspelled
  intro h
  obtain ⟨hcanonical, -, -, hinside⟩ := normalize_eq_ok_iff.1 h
  have hbare : stem (String.ofList (front ++ ['.', '.'])) =
      String.ofList (front ++ ['.', '.']) := by
    rw [List.append_cons]
    exact stem_concat_point _
  rw [canonical_eq, hspelled, hbare] at hcanonical
  refine hinside ?_
  rw [← hcanonical]
  rcases hfront with rfl | ⟨above, rfl⟩
  · decide
  · have htext : String.ofList (above ++ ['/'] ++ ['.', '.']) =
        String.ofList above ++ "/" ++ ".." := by
      apply String.toList_injective
      simp
    rw [htext, Path.steps_append_slash]
    exact List.mem_append_right _ (by decide)

end Template.Name

/-! ## Places of files -/

namespace Path

/-- A path of filled segments does not start with a slash. -/
theorem isAbsolute_intercalate {l : List String} (h : ∀ s ∈ l, IsSegment s ∧ s ≠ "") :
    (⟨"/".intercalate l⟩ : Path).isAbsolute = false := by
  cases l with
  | nil => rfl
  | cons s l =>
    obtain ⟨hsegment, hfilled⟩ := h s List.mem_cons_self
    cases l with
    | nil =>
      rw [String.intercalate_singleton, ← String.append_empty (s := s)]
      exact isAbsolute_append hsegment hfilled ""
    | cons t l =>
      rw [String.intercalate_cons_cons, String.append_assoc]
      exact isAbsolute_append hsegment hfilled _

end Path

namespace Template

/-- Where a file is below a directory: the directories that lead to it, outermost first, and its
name. -/
structure Place where
  parents : List String
  file : String
deriving DecidableEq, Repr

namespace Place

/-- The file at a place below a directory. -/
def path (root : Path) (place : Place) : Path :=
  (place.parents.foldl Path.join root).join place.file

/-- Whether the file is a template by its name. -/
def IsTemplate (place : Place) : Prop :=
  (Engine.templateName? place.file).isSome = true

/-- The file name without its ending. -/
def stem (place : Place) : String :=
  (Engine.templateName? place.file).getD place.file

/-- The name that a template file is preloaded under. -/
def name (place : Place) : String :=
  "/".intercalate (place.parents ++ [place.stem])

/-- Directories list such places. -/
def IsListed (place : Place) : Prop :=
  ∀ s ∈ place.parents ++ [place.file], Path.IsFileName s

/-- A template file that is spelled plainly: its ending as the one that is added, and its name as
it is asked for. -/
structure IsPlain (place : Place) : Prop extends Name.IsPlain place.name where
  ending : (Path.splitExtension place.file).2 = some Name.extension
  inside : place.stem ≠ ".."

instance (place : Place) : Decidable place.IsPlain :=
  decidable_of_iff ((Text.trim place.name = place.name ∧ '\\' ∉ place.name.toList ∧
      Name.stem place.name = place.name) ∧
      (Path.splitExtension place.file).2 = some Name.extension ∧ place.stem ≠ "..")
    ⟨fun h => ⟨⟨h.1.1, h.1.2.1, h.1.2.2⟩, h.2.1, h.2.2⟩,
      fun h => ⟨⟨h.trimmed, h.slashed, h.bare⟩, h.ending, h.inside⟩⟩

variable {place : Place} {root : Path} {normalized : String}

/-- A template file's name is cut at the last point; what is behind it is the ending up to case. -/
theorem IsTemplate.exists_cut (h : place.IsTemplate) : ∃ front ending : String,
    place.file = front ++ "." ++ ending ∧ front ≠ "" ∧
      (Path.splitExtension place.file).2 = some ending ∧
      Text.sameIgnoringAsciiCase ending.toList Name.extension.toList = true ∧
      place.stem = if front = "." then ".." else front := by
  rcases Path.splitExtension_cases place.file with
    hnone | ⟨front, ending, hsplit, hfilled, -, hfile⟩
  · have hno : Engine.templateName? place.file = none := by
      rw [Engine.templateName?, hnone]
    rw [IsTemplate, hno] at h
    cases h
  · have hname : Engine.templateName? place.file =
        if Text.sameIgnoringAsciiCase ending.toList Name.extension.toList then
          some (if front = "." then ".." else front)
        else none := by
      rw [Engine.templateName?, hsplit]
    rw [IsTemplate, hname] at h
    split at h
    · next hsame =>
      refine ⟨front, ending, hfile, hfilled, by rw [hsplit], hsame, ?_⟩
      rw [stem, hname, if_pos hsame]
      rfl
    · cases h

theorem exists_lead (parents : List String) : ∃ lead : String,
    (lead = "" ∨ ∃ above, lead = above ++ "/") ∧
      ∀ last : String, "/".intercalate (parents ++ [last]) = lead ++ last := by
  by_cases h : parents = []
  · exact ⟨"", .inl rfl, fun last => by simp [h]⟩
  · refine ⟨"/".intercalate parents ++ "/", .inr ⟨_, rfl⟩, fun last => ?_⟩
    rw [String.intercalate_append_of_ne_nil h (List.cons_ne_nil _ _),
      String.intercalate_singleton]

/-- Walking down to a file is joining with its relative path. -/
theorem path_eq (hlisted : place.IsListed) (root : Path) :
    place.path root = root.join ("/".intercalate (place.parents ++ [place.file])) := by
  obtain ⟨parents, file⟩ := place
  unfold path
  unfold IsListed at hlisted
  dsimp only at hlisted ⊢
  induction parents generalizing root with
  | nil => rfl
  | cons parent parents ih =>
    have hparent := hlisted parent List.mem_cons_self
    have hrest : ∀ s ∈ parents ++ [file], Path.IsFileName s := fun s hs =>
      hlisted s (List.mem_cons_of_mem _ hs)
    have hne : parents ++ [file] ≠ [] := by simp
    have hrelative : (⟨"/".intercalate (parents ++ [file])⟩ : Path).isAbsolute = false :=
      Path.isAbsolute_intercalate fun s hs => ⟨(hrest s hs).segment, (hrest s hs).ne_empty⟩
    rw [List.foldl_cons, ih _ hrest, Path.join_join hparent.segment hparent.ne_empty hrelative,
      List.cons_append, String.intercalate_cons_of_ne_nil hne]

/-- A name leads to the file that was found exactly if it is the found name without an ending, and
that ending is written like the one that is added. -/
theorem file_eq_path_iff (hlisted : place.IsListed) {front ending : String}
    (hfile : place.file = front ++ "." ++ ending)
    (hsame : Text.sameIgnoringAsciiCase ending.toList Name.extension.toList = true)
    (hrelative : (⟨normalized⟩ : Path).isAbsolute = false) :
    Name.file root normalized = place.path root ↔
      normalized = "/".intercalate (place.parents ++ [front]) ∧ ending = Name.extension := by
  have hwhole : (⟨normalized ++ "." ++ Name.extension⟩ : Path).isAbsolute = false := by
    rw [String.append_assoc, Path.isAbsolute, String.toList_append]
    cases htext : normalized.toList with
    | nil => rfl
    | cons c cs => rwa [Path.isAbsolute, htext] at hrelative
  have hpath : (⟨"/".intercalate (place.parents ++ [place.file])⟩ : Path).isAbsolute = false :=
    Path.isAbsolute_intercalate fun s hs => ⟨(hlisted s hs).segment, (hlisted s hs).ne_empty⟩
  obtain ⟨lead, -, hlead⟩ := exists_lead place.parents
  rw [path_eq hlisted, Name.file, Path.join_inj hwhole hpath, hlead, hlead, hfile]
  constructor
  · intro h
    have hlength : ('.' :: Name.extension.toList).length = ('.' :: ending.toList).length := by
      have hlower := congrArg List.length (beq_iff_eq.1 hsame)
      simpa using hlower.symm
    have htext : normalized.toList ++ '.' :: Name.extension.toList =
        (lead ++ front).toList ++ '.' :: ending.toList := by
      simpa using congrArg String.toList h
    obtain ⟨hfront, hending⟩ := List.append_inj' htext hlength
    exact ⟨String.toList_injective hfront,
      (String.toList_injective (List.cons.inj hending).2).symm⟩
  · rintro ⟨rfl, rfl⟩
    simp only [String.append_assoc]

/-- What leads to a template file, and its stem, is filled. -/
theorem IsTemplate.isSegment (htemplate : place.IsTemplate) (hlisted : place.IsListed) :
    ∀ s ∈ place.parents ++ [place.stem], Path.IsSegment s ∧ s ≠ "" := by
  obtain ⟨front, ending, hfile, hfront, -, -, hstem⟩ := htemplate.exists_cut
  intro s hs
  rcases List.mem_append.1 hs with hs | hs
  · have hparent := hlisted s (List.mem_append_left _ hs)
    exact ⟨hparent.segment, hparent.ne_empty⟩
  · rw [List.mem_singleton.1 hs, hstem]
    split
    · decide
    · refine ⟨fun hslash => ?_, hfront⟩
      have hsegment := (hlisted place.file (by simp)).segment
      exact hsegment (by simp [hfile, hslash])

theorem segments_name (htemplate : place.IsTemplate) (hlisted : place.IsListed) :
    (⟨place.name⟩ : Path).segments = place.parents ++ [place.stem] :=
  Path.segments_intercalate (by simp) fun s hs => (htemplate.isSegment hlisted s hs).1

namespace IsPlain

theorem file_eq (h : place.IsPlain) (htemplate : place.IsTemplate) :
    place.file = place.stem ++ "." ++ Name.extension := by
  obtain ⟨front, ending, hfile, -, hsplit, -, hstem⟩ := htemplate.exists_cut
  have hinside := h.inside
  rw [hstem] at hinside
  rw [hstem, hfile, Option.some.inj (hsplit.symm.trans h.ending)]
  split at hinside
  · exact absurd rfl hinside
  · next hpoint => rw [if_neg hpoint]

theorem normalize_name (h : place.IsPlain) (htemplate : place.IsTemplate)
    (hlisted : place.IsListed) : Name.normalize place.name = .ok place.name := by
  have hsegments := htemplate.isSegment hlisted
  refine Name.normalize_eq_ok_iff.2 ⟨Name.canonical_eq_self_iff.2 h.toIsPlain, fun hempty => ?_,
    Path.isAbsolute_intercalate hsegments, fun hup => ?_⟩
  · have hmem : "" ∈ place.parents ++ [place.stem] := by
      rw [← segments_name htemplate hlisted, hempty]
      decide
    exact (hsegments "" hmem).2 rfl
  · rw [Path.steps, segments_name htemplate hlisted] at hup
    rcases List.mem_append.1 (List.mem_filter.1 hup).1 with hup | hup
    · exact (hlisted _ (List.mem_append_left _ hup)).inside rfl
    · exact h.inside (List.mem_singleton.1 hup).symm

theorem file_eq_path (h : place.IsPlain) (htemplate : place.IsTemplate)
    (hlisted : place.IsListed) (root : Path) : Name.file root place.name = place.path root := by
  obtain ⟨-, -, hrelative, -⟩ := Name.normalize_eq_ok_iff.1 (h.normalize_name htemplate hlisted)
  exact (file_eq_path_iff hlisted (h.file_eq htemplate) (by decide) hrelative).2 ⟨rfl, rfl⟩

/-- Two places have two names. -/
theorem name_inj {place' : Place} (h : place.IsPlain) (htemplate : place.IsTemplate)
    (hlisted : place.IsListed) (h' : place'.IsPlain) (htemplate' : place'.IsTemplate)
    (hlisted' : place'.IsListed) (hname : place.name = place'.name) : place = place' := by
  have hsegments := segments_name htemplate hlisted
  rw [hname, segments_name htemplate' hlisted'] at hsegments
  obtain ⟨hparents, hstem⟩ := List.append_inj' hsegments rfl
  have hfile := h.file_eq htemplate
  rw [← List.singleton_inj.1 hstem, ← h'.file_eq htemplate'] at hfile
  cases place
  cases place'
  simp_all

end IsPlain

/-- A template file is found under its name exactly if it is spelled plainly. -/
theorem exists_file_eq_path_iff (htemplate : place.IsTemplate) (hlisted : place.IsListed)
    (root : Path) : (∃ normalized, Name.normalize place.name = .ok normalized ∧
      Name.file root normalized = place.path root) ↔ place.IsPlain := by
  constructor
  · rintro ⟨normalized, hnormalize, hpath⟩
    obtain ⟨front, ending, hfile, -, hsplit, hsame, hstem⟩ := htemplate.exists_cut
    obtain ⟨lead, hlead, hjoined⟩ := exists_lead place.parents
    obtain ⟨hcanonical, -, hrelative, -⟩ := Name.normalize_eq_ok_iff.1 hnormalize
    obtain ⟨hfront, hending⟩ := (file_eq_path_iff hlisted hfile hsame hrelative).1 hpath
    have hinside : place.stem ≠ ".." := by
      intro hup
      rw [name, hjoined, hup] at hnormalize
      exact Name.normalize_up_ne_ok hlead hnormalize
    have hname : normalized = place.name := by
      rw [hfront, name, hstem]
      split
      · next hpoint => exact absurd (by rw [hstem, if_pos hpoint]) hinside
      · rfl
    rw [hname] at hcanonical
    exact ⟨Name.canonical_eq_self_iff.1 hcanonical, hsplit.trans (congrArg some hending), hinside⟩
  · intro h
    exact ⟨place.name, h.normalize_name htemplate hlisted, h.file_eq_path htemplate hlisted root⟩

end Place

end Template

end SchemaCodegen
