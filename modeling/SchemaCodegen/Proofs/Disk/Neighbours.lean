import SchemaCodegen.Proofs.Disk.Missing

/-!
# Files beside one another

Joining a directory with a name adds one component (`Path.components_join`), so the parent of a path
joined with another name is that path but for its last component, and has the same parent
(`Path.parent?_join`). What happens to one of two such paths is not seen from the other
(`Disk.Retains`): directories may be created above both, and files written, moved and removed under
the other name.
-/

namespace SchemaCodegen

namespace Path

variable {p q r dir : Path} {name name' name'' a b : String} {before before' : List String}

/-! ## Components -/

/-- The step that a component stands for; a root and a `.` at the start are none. -/
def Component.step? : Component → Option String
  | .root => none
  | .here => none
  | .up => some ".."
  | .name text => some text

theorem Component.step?_ofSegment (segment : String) :
    (Component.ofSegment segment).step? = some segment := by
  rw [Component.ofSegment]
  split
  · next hup => rw [beq_iff_eq.1 hup]; rfl
  · rfl

/-- What the components start with, before those of the steps. -/
def opening (p : Path) : List Component :=
  if p.isAbsolute then [.root] else if p.segments.head? == some "." then [.here] else []

theorem components_eq (p : Path) :
    p.components = p.opening ++ p.steps.map Component.ofSegment := rfl

theorem steps_eq_filterMap (p : Path) : p.steps = p.components.filterMap Component.step? := by
  have hopening : p.opening.filterMap Component.step? = [] := by
    rw [opening]
    split
    · rfl
    · split <;> rfl
  rw [components_eq, List.filterMap_append, hopening, List.nil_append, List.filterMap_map]
  simp [Component.step?_ofSegment]

/-- The file name is the last component, if that is a name. -/
theorem fileName?_eq_some_iff_getLast? :
    p.fileName? = some name ↔ p.components.getLast? = some (.name name) := by
  rw [fileName?_eq_some_iff, components_eq]
  rcases List.eq_nil_or_concat p.steps with hnone | ⟨front, last, hlast⟩
  · have hopening : p.opening.getLast? ≠ some (.name name) := by
      rw [opening]
      split
      · exact nofun
      · split <;> exact nofun
    simp [hnone, hopening]
  · rw [List.concat_eq_append] at hlast
    rw [hlast, List.map_append, List.map_singleton, ← List.append_assoc, List.getLast?_concat,
      List.getLast?_concat, Component.ofSegment]
    by_cases hup : last = ".."
    · rw [if_pos (beq_iff_eq.2 hup)]
      refine iff_of_false ?_ nofun
      rintro ⟨hname, hup'⟩
      exact hup' ((Option.some.inj hname).symm.trans hup)
    · rw [if_neg (by simpa using hup)]
      simp only [Option.some.injEq, Component.name.injEq, and_iff_left_iff_imp]
      rintro rfl
      exact hup

theorem fileName?_eq_none_iff :
    p.fileName? = none ↔ ∀ name, p.steps.getLast? = some name → name = ".." := by
  rw [Option.eq_none_iff_forall_ne_some]
  refine forall_congr' fun name => ?_
  rw [ne_eq, fileName?_eq_some_iff, not_and, not_ne_iff]

theorem fileName?_of_steps_nil (h : p.steps = []) : p.fileName? = none :=
  fileName?_eq_none_iff.2 (by simp [h])

theorem fileName?_of_up (h : p.steps = before ++ [".."]) : p.fileName? = none :=
  fileName?_eq_none_iff.2 (by simp [h])

/-- A path without a name at its end ends in a step to a directory. -/
theorem isDots_of_nameless (h : p.fileName? = none) (hlast : p.filled.getLast? = some name) :
    (name == "." || name == "..") = true := by
  by_contra hdots
  obtain ⟨hhere, hup⟩ : name ≠ "." ∧ name ≠ ".." := by simpa using hdots
  obtain ⟨front, hfront⟩ := List.getLast?_eq_some_iff.1 hlast
  have hfilled : name ≠ "" := by
    have hmem : name ∈ p.filled := by simp [hfront]
    simpa using (List.mem_filter.1 hmem).2
  refine hup (fileName?_eq_none_iff.1 h name ?_)
  rw [steps_eq_filter_filled, hfront, List.filter_append,
    List.filter_cons_of_pos (by simp [isIdle, hfilled, hhere]), List.filter_nil,
    List.getLast?_concat]

theorem isAbsolute_eq_head? (p : Path) :
    p.isAbsolute = (p.components.head? == some .root) := by
  rw [components_eq, opening]
  cases p.isAbsolute with
  | true => rfl
  | false =>
    have hstep : ∀ s, Component.ofSegment s ≠ .root := by
      intro s
      rw [Component.ofSegment]
      split <;> exact nofun
    cases p.segments.head? == some "." with
    | true => rfl
    | false => cases p.steps <;> simp [hstep]

theorem isAbsolute_append_slash (ha : a ≠ "") (b : String) :
    (⟨a ++ "/" ++ b⟩ : Path).isAbsolute = (⟨a⟩ : Path).isAbsolute := by
  cases htext : a.toList with
  | nil => exact absurd (String.toList_eq_nil_iff.1 htext) ha
  | cons c cs => simp [isAbsolute, htext]

theorem head?_segments_append_slash (a b : String) :
    (⟨a ++ "/" ++ b⟩ : Path).segments.head? = (⟨a⟩ : Path).segments.head? := by
  rw [segments_append_slash, List.head?_append_of_ne_nil]
  simp [segments, Text.splitOnChar, Text.splitWhere_ne_nil]

theorem opening_append_slash (ha : a ≠ "") (b : String) :
    (⟨a ++ "/" ++ b⟩ : Path).opening = (⟨a⟩ : Path).opening := by
  rw [opening, opening, isAbsolute_append_slash ha, head?_segments_append_slash]

theorem anchor_append_slash (ha : a ≠ "") (b : String) :
    (⟨a ++ "/" ++ b⟩ : Path).anchor = (⟨a⟩ : Path).anchor := by
  rw [anchor, anchor, isAbsolute_append_slash ha, head?_segments_append_slash]

theorem components_append_slash (ha : a ≠ "") (b : String) :
    (⟨a ++ "/" ++ b⟩ : Path).components =
      (⟨a⟩ : Path).components ++ (⟨b⟩ : Path).steps.map Component.ofSegment := by
  rw [components_eq, components_eq, opening_append_slash ha, steps_append_slash, List.map_append,
    List.append_assoc]

theorem components_slash (b : String) : (⟨"/" ++ b⟩ : Path).components =
    .root :: (⟨b⟩ : Path).steps.map Component.ofSegment := by
  have habsolute : (⟨"/" ++ b⟩ : Path).isAbsolute = true := by simp [isAbsolute]
  have hsteps : (⟨"/" ++ b⟩ : Path).steps = (⟨b⟩ : Path).steps := steps_append_slash "" b
  rw [components_eq, opening, if_pos habsolute, hsteps]
  rfl

theorem components_anchor (p : Path) : (⟨p.anchor⟩ : Path).components = p.opening := by
  rw [anchor, opening]
  split
  · decide
  · split <;> decide

/-! ## Names in a directory -/

theorem join_of_isFileName (p : Path) (h : IsFileName name) : p.join name =
    if p.isEmpty || p.text.toList.getLast? == some '/' then ⟨p.text ++ name⟩
    else ⟨p.text ++ "/" ++ name⟩ :=
  if_neg fun hhead => h.segment (List.mem_of_head? (beq_iff_eq.1 hhead))

theorem join_of_getLast? {c : Char} (h : IsFileName name) (hlast : p.text.toList.getLast? = some c)
    (hc : c ≠ '/') : p.text ≠ "" ∧ p.join name = ⟨p.text ++ "/" ++ name⟩ := by
  have hfilled : p.text ≠ "" := by
    intro hempty
    rw [hempty] at hlast
    cases hlast
  refine ⟨hfilled, ?_⟩
  rw [join_of_isFileName p h, if_neg]
  simp [isEmpty, hfilled, hlast, hc]

theorem opening_of_isFileName (h : IsFileName name) :
    (⟨name⟩ : Path).opening = [] ∧ (⟨name⟩ : Path).anchor = "" := by
  have hrelative : ¬ (⟨name⟩ : Path).isAbsolute = true := fun habsolute =>
    h.segment (List.mem_of_head? (beq_iff_eq.1 habsolute))
  have hhere : ¬ ((⟨name⟩ : Path).segments.head? == some ".") = true := by
    rw [segments_of_isSegment h.segment]
    intro hdot
    obtain rfl : name = "." := by simpa using hdot
    exact absurd h.filled (by decide)
  rw [opening, anchor, if_neg hrelative, if_neg hrelative, if_neg hhere, if_neg hhere]
  exact ⟨rfl, rfl⟩

theorem map_steps_of_isFileName (h : IsFileName name) :
    (⟨name⟩ : Path).steps.map Component.ofSegment = [.name name] := by
  rw [steps_of_isSegment h.segment h.filled]
  simp [Component.ofSegment, h.inside]

theorem components_of_isFileName (h : IsFileName name) :
    (⟨name⟩ : Path).components = [.name name] := by
  rw [components_eq, (opening_of_isFileName h).1, map_steps_of_isFileName h]
  rfl

/-- Joining a directory with a name adds one component. -/
theorem components_join (p : Path) (h : IsFileName name) :
    (p.join name).components = p.components ++ [.name name] := by
  rw [join_of_isFileName p h]
  split
  · next hclosed =>
    rcases Bool.or_eq_true_iff.1 hclosed with hempty | hslash
    · have htext : p = ⟨""⟩ := congrArg Path.mk (String.isEmpty_iff.1 hempty)
      rw [htext, String.empty_append, components_of_isFileName h]
      rfl
    · -- The slash at the end is the one that would have been put in between.
      obtain ⟨cs, hcs⟩ := List.getLast?_eq_some_iff.1 (beq_iff_eq.1 hslash)
      have htext : p = ⟨String.ofList cs ++ "/"⟩ :=
        congrArg Path.mk (String.toList_injective (by simp [hcs]))
      rw [htext]
      by_cases hroot : String.ofList cs = ""
      · rw [hroot, String.empty_append, components_slash, map_steps_of_isFileName h]
        rfl
      · have hsame : (⟨String.ofList cs ++ "/"⟩ : Path).components =
            (⟨String.ofList cs⟩ : Path).components := by
          have hslash := components_append_slash hroot ""
          rw [String.append_empty] at hslash
          rw [hslash]
          exact List.append_nil _
        rw [hsame, components_append_slash hroot, map_steps_of_isFileName h]
  · next hopen =>
    have hfilled : p.text ≠ "" := by
      intro hempty
      simp [isEmpty, hempty] at hopen
    rw [components_append_slash hfilled, map_steps_of_isFileName h]

/-! ## Names beside a path -/

theorem steps_of_parent?_eq_none (h : p.parent? = none) : p.steps = [] := by
  unfold parent? at h
  dsimp only at h
  split at h
  · next hbody =>
    rw [steps_eq_filter_bodySegments, List.isEmpty_iff.1 hbody]
    rfl
  · cases h

/-- A text whose last segment is not idle ends in no slash. -/
theorem getLast?_ofBody {kept : List String} (hne : kept ≠ [])
    (hkept : kept.rdropWhile isIdle = kept) (hsegment : ∀ s ∈ kept, IsSegment s)
    (anchor : String) :
    ∃ c, (ofBody anchor kept).text.toList.getLast? = some c ∧ c ≠ '/' := by
  rcases List.eq_nil_or_concat kept with hnil | ⟨init, last, hlast⟩
  · exact absurd hnil hne
  rw [List.concat_eq_append] at hlast
  subst hlast
  have hfilled : last.toList ≠ [] := by
    have hidle := List.rdropWhile_eq_self_iff.1 hkept hne
    intro hempty
    rw [List.getLast_concat, String.toList_eq_nil_iff.1 hempty] at hidle
    exact hidle (by decide)
  obtain ⟨front, htext⟩ : ∃ front, (ofBody anchor (init ++ [last])).text = front ++ last := by
    by_cases hinit : init = []
    · exact ⟨anchor, by rw [ofBody, hinit, List.nil_append, String.intercalate_singleton]⟩
    · refine ⟨anchor ++ "/".intercalate init ++ "/", ?_⟩
      rw [ofBody, String.intercalate_append_of_ne_nil hinit (by simp), String.intercalate_singleton]
      simp only [String.append_assoc]
  refine ⟨last.toList.getLast hfilled, ?_, ?_⟩
  · rw [htext, String.toList_append, List.getLast?_append_of_ne_nil _ hfilled,
      List.getLast?_eq_some_getLast hfilled]
  · intro hslash
    refine hsegment last (by simp) ?_
    rw [← hslash]
    exact List.getLast_mem hfilled

/-- What has a parent is it with one more component. -/
theorem components_of_parent? (h : p.parent? = some dir) :
    ∃ last, p.components = dir.components ++ [last] := by
  rcases exists_of_parent? h with ⟨hsteps, hanchor, rfl⟩ |
    ⟨kept, last, hdir, hsegment, hself, ⟨rfl, hsteps⟩ | ⟨hkept, rest, hp, hrest⟩⟩
  · refine ⟨.here, ?_⟩
    rw [components_eq, hsteps, ← components_anchor, hanchor]
    decide
  · refine ⟨.ofSegment last, ?_⟩
    have hanchor : dir = ⟨p.anchor⟩ := by
      rw [hdir, ofBody, String.intercalate_nil, String.append_empty]
    rw [hanchor, components_anchor, components_eq, hsteps]
    rfl
  · refine ⟨.ofSegment last, ?_⟩
    obtain ⟨c, hlast, -⟩ := getLast?_ofBody hkept hself hsegment p.anchor
    have hfilled : dir.text ≠ "" := by
      intro hempty
      rw [← hdir, hempty] at hlast
      cases hlast
    rw [hp, components_append_slash hfilled, hrest]
    rfl

/-- The parent is read off the segments behind the anchor. -/
theorem parent?_of_text {l : List String}
    (htext : p.text = p.anchor ++ "/".intercalate (l ++ [name])) (hl : ∀ s ∈ l, IsSegment s)
    (hname : IsFileName name) : p.parent? = some (ofBody p.anchor (l.rdropWhile isIdle)) := by
  have hsegment : ∀ s ∈ l ++ [name], IsSegment s := by
    intro s hs
    rcases List.mem_append.1 hs with hs | hs
    · exact hl s hs
    · rw [List.mem_singleton.1 hs]
      exact hname.segment
  have hdrop : String.ofList (p.text.toList.drop p.anchor.length) =
      "/".intercalate (l ++ [name]) := by
    rw [htext, String.toList_append, ← String.length_toList, List.drop_left, String.ofList_toList]
  have hbody : p.bodySegments = l ++ [name] := by
    change (Text.splitOnChar _ '/').rdropWhile isIdle = _
    have hsplit : Text.splitOnChar ("/".intercalate (l ++ [name])) '/' = l ++ [name] :=
      segments_intercalate (by simp) hsegment
    rw [hdrop, hsplit, List.rdropWhile_concat_neg _ _ _ (by simp [hname.filled])]
  unfold parent?
  simp only [hbody]
  rw [if_neg (by simp), List.dropLast_concat]
  rfl

theorem parent?_of_isFileName (h : IsFileName name) : (⟨name⟩ : Path).parent? = some ⟨""⟩ := by
  have hanchor := (opening_of_isFileName h).2
  have htext : name = (⟨name⟩ : Path).anchor ++ "/".intercalate ([] ++ [name]) := by
    rw [hanchor, List.nil_append, String.intercalate_singleton, String.empty_append]
  rw [parent?_of_text htext (List.forall_mem_nil _) h, hanchor]
  rfl

theorem parent?_empty_join (h : IsFileName name) :
    ((⟨""⟩ : Path).join name).parent? = some ⟨""⟩ := by
  rw [join_of_isFileName _ h, if_pos (by decide), String.empty_append]
  exact parent?_of_isFileName h

theorem parent?_anchor_join (p : Path) (h : IsFileName name) :
    ((⟨p.anchor⟩ : Path).join name).parent? = some ⟨p.anchor⟩ := by
  rcases anchor_cases p with hanchor | hanchor | hanchor
  · have hname : (⟨"/" ++ name⟩ : Path).anchor = "/" := if_pos (by simp [isAbsolute])
    have htext : "/" ++ name = (⟨"/" ++ name⟩ : Path).anchor ++ "/".intercalate ([] ++ [name]) := by
      rw [hname, List.nil_append, String.intercalate_singleton]
    rw [hanchor, join_of_isFileName _ h, if_pos (by decide),
      parent?_of_text htext (List.forall_mem_nil _) h, hname]
    rfl
  · have hname : (⟨"." ++ "/" ++ name⟩ : Path).anchor = "." :=
      (anchor_append_slash (by decide) name).trans (by decide)
    have htext : "." ++ "/" ++ name =
        (⟨"." ++ "/" ++ name⟩ : Path).anchor ++ "/".intercalate ([""] ++ [name]) := by
      rw [hname, String.intercalate_append_of_ne_nil (by simp) (by simp),
        String.intercalate_singleton, String.intercalate_singleton, String.empty_append,
        String.append_assoc]
    rw [hanchor, join_of_isFileName _ h, if_neg (by decide), parent?_of_text htext (by decide) h,
      hname]
    rfl
  · rw [hanchor]
    exact parent?_empty_join h

/-- A name beside a path has the same parent. -/
theorem parent?_join (h : p.parent? = some dir) (hname : IsFileName name) :
    (dir.join name).parent? = some dir := by
  rcases exists_of_parent? h with ⟨-, -, rfl⟩ |
    ⟨kept, last, hdir, hsegment, hself, ⟨rfl, -⟩ | ⟨hkept, rest, hp, -⟩⟩
  · exact parent?_empty_join hname
  · rw [ofBody, String.intercalate_nil, String.append_empty] at hdir
    rw [hdir]
    exact parent?_anchor_join p hname
  · obtain ⟨c, hlast, hc⟩ := getLast?_ofBody hkept hself hsegment p.anchor
    rw [← hdir] at hlast
    obtain ⟨hfilled, hjoin⟩ := join_of_getLast? hname hlast hc
    have hanchor : (⟨dir.text ++ "/" ++ name⟩ : Path).anchor = p.anchor := by
      rw [anchor_append_slash hfilled, ← anchor_append_slash hfilled rest, ← hp]
    have htext : dir.text ++ "/" ++ name =
        (⟨dir.text ++ "/" ++ name⟩ : Path).anchor ++ "/".intercalate (kept ++ [name]) := by
      rw [hanchor, String.intercalate_append_of_ne_nil hkept (by simp),
        String.intercalate_singleton, hdir, ofBody]
      simp only [String.append_assoc]
    rw [hjoin, parent?_of_text htext hsegment hname, hanchor, hself, hdir]

/-- Paths with the same components but for the last lie in one directory. -/
theorem siblings_of_components {front : List Component} {last last' : Component}
    (hp : p.components = front ++ [last]) (hq : q.components = front ++ [last'])
    (hlast : last.step? = some name) (hlast' : last'.step? = some name') :
    Siblings p q (front.filterMap Component.step?) name name' := by
  have hstep : ∀ {c : Component} {s : String}, c.step? = some s → c ≠ .root := by
    rintro _ _ h rfl
    cases h
  refine ⟨?_, ?_, ?_⟩
  · simp [steps_eq_filterMap, hp, hlast]
  · simp [steps_eq_filterMap, hq, hlast']
  · rw [isAbsolute_eq_head?, isAbsolute_eq_head?, hp, hq]
    cases front with
    | nil => simp [hstep hlast, hstep hlast']
    | cons first front => rfl

namespace Siblings

theorem symm (h : Siblings p q before name name') : Siblings q p before name' name :=
  ⟨h.steps', h.steps, h.isAbsolute.symm⟩

theorem trans (h : Siblings p q before name name') (h' : Siblings q r before' name' name'') :
    Siblings p r before name name'' := by
  obtain ⟨rfl, -⟩ := List.append_inj' (h'.steps.symm.trans h.steps') rfl
  exact ⟨h.steps, h'.steps', h'.isAbsolute.trans h.isAbsolute⟩

end Siblings

/-- The second path can name another file in the directory of the first, or no file at all. -/
def Beside (p q : Path) : Prop :=
  ∀ name', q.fileName? = some name' →
    ∃ before name, name' ≠ name ∧ p.Siblings q before name name'

/-- A sibling is beside a path that has not its name. -/
theorem Siblings.beside (h : Siblings p q before name name') (hne : p.fileName? ≠ some name') :
    Beside p q := by
  intro n hn
  obtain ⟨hlast, hup⟩ := fileName?_eq_some_iff.1 hn
  rw [h.steps', List.getLast?_concat, Option.some.injEq] at hlast
  subst hlast
  refine ⟨before, name, ?_, h⟩
  rintro rfl
  exact hne (fileName?_eq_some_iff.2 ⟨by rw [h.steps, List.getLast?_concat], hup⟩)

theorem Above.of_parent?_eq (h : p.Above r) (hq : q.parent? = p.parent?) : q.Above r := by
  induction h with
  | parent hr => exact .parent (hq.trans hr)
  | up _ hr ih => exact ih.up hr

end Path

namespace Disk

variable {d d' d'' : Disk} {p q : Path} {before : List String} {name name' : String} {t : Location}

/-- Siblings name one location exactly if they have one name. -/
theorem Names.eq_iff_of_siblings {x : Location} (hx : d.Names p x) (ht : d.Names q t)
    (hsiblings : p.Siblings q before name name') : x = t ↔ name = name' := by
  obtain ⟨directory, hwalk, rfl⟩ := ht.of_siblings hsiblings
  obtain ⟨directory', hwalk', rfl⟩ := hx.of_siblings hsiblings.symm
  have hstart : d.start q = d.start p := by rw [start, start, hsiblings.isAbsolute]
  rw [hstart, hwalk] at hwalk'
  cases hwalk'
  simp

/-- What is at the path is left alone: a file can be read as before, and one that is missing still
is. -/
structure Retains (p : Path) (d d' : Disk) : Prop where
  read : ∀ {content}, d.readFile p = .ok content → d'.readFile p = .ok content
  lacks : d.Lacks p → d'.Lacks p

namespace Retains

theorem refl (p : Path) (d : Disk) : Retains p d d :=
  ⟨id, id⟩

theorem trans (h : Retains p d d') (h' : Retains p d' d'') : Retains p d d'' :=
  ⟨fun hread => h'.read (h.read hread), fun hlacks => h'.lacks (h.lacks hlacks)⟩

theorem of_makes (h : d.Makes p.Above d') : Retains p d d' := by
  refine ⟨fun hread => ?_, fun hlacks => hlacks.of_makes h⟩
  obtain ⟨x, hnames, -⟩ := readFile_iff.1 hread
  rw [h.eq_of_names hnames, hread]

end Retains

/-- What can be walked, and has no name at its end, is a directory. -/
theorem readFile_of_nameless (hfault : pathFault? p = none) (hname : p.fileName? = none)
    (hwalk : d.Walks p) : d.readFile p = .error .isDirectory := by
  have hread : ∀ location, d.walk p = .ok ⟨location, none, true⟩ →
      d.readFile p = .error .isDirectory := by
    intro location hwalk
    rw [readFile_eq, locate_eq, hfault]
    change d.walk p >>= _ = _
    rw [hwalk]
    rfl
  obtain ⟨l, hl⟩ := hwalk
  rcases List.eq_nil_or_concat p.filled with hnone | ⟨front, last, hlast⟩
  · change p.segments.filter (· != "") = [] at hnone
    refine hread (d.start p) ?_
    rw [walk, hnone]
    rfl
  · rw [List.concat_eq_append] at hlast
    rw [hlast] at hl
    obtain ⟨between, hfront, hl⟩ := foldlM_enter_append hl
    have henter : d.enter between last = .ok l := by
      rw [List.foldlM_cons] at hl
      obtain ⟨next, hnext, hdone⟩ := exists_of_bind_eq_ok hl
      cases hdone
      exact hnext
    have hdots := Path.isDots_of_nameless hname (by rw [hlast, List.getLast?_concat])
    change p.segments.filter (· != "") = _ at hlast
    refine hread l ?_
    rw [walk, hlast, List.getLast?_concat, List.dropLast_concat, hfront]
    change (if _ then _ else _) = _
    rw [if_pos hdots, henter]
    rfl

/-- A path without steps leads to a directory or nowhere, whatever is on the disk. -/
theorem Retains.of_steps_nil (h : p.steps = []) (d d' : Disk) : Retains p d d' := by
  have hread : ∃ fault, ∀ d : Disk, d.readFile p = .error fault := by
    cases hfault : pathFault? p with
    | some fault =>
      refine ⟨fault, fun d => ?_⟩
      rw [readFile_eq, locate_eq, hfault]
      rfl
    | none =>
      refine ⟨.isDirectory, fun d => readFile_of_nameless hfault (Path.fileName?_of_steps_nil h) ?_⟩
      rw [walks_iff, h]
      exact ⟨_, rfl⟩
  obtain ⟨fault, hread⟩ := hread
  refine ⟨fun hok => ?_, fun hlacks d'' _ => ?_⟩
  · rw [hread] at hok
    cases hok
  · rw [hread, ← hread d, hlacks.readFile]

/-- A change of one file is not seen from a path that goes on to another name. -/
theorem Retains.of_siblings (hsiblings : p.Siblings q before name name') (hne : name' ≠ name)
    (ht : d.Names q t) (hextends : Extends d d')
    (hsame : ∀ x, x ≠ t → d'.entry? x = d.entry? x) : Retains p d d' := by
  by_cases hup : name = ".."
  · -- Such a path leads to a directory as soon as the one that both go through is there.
    subst hup
    have hname := Path.fileName?_of_up hsiblings.steps
    refine ⟨fun hread => ?_, fun hlacks => ?_⟩
    · obtain ⟨x, hx, -⟩ := readFile_iff.1 hread
      obtain ⟨_, name, hname', -⟩ := fileName?_of_names hx
      rw [hname] at hname'
      cases hname'
    · obtain ⟨directory, hwalk, -⟩ := ht.of_siblings hsiblings
      have hwalks : d.Walks p := by
        rw [walks_iff, hsiblings.steps, List.foldlM_append, hwalk]
        exact ⟨_, rfl⟩
      have hfault := pathFault?_of_missing (by simp [hsiblings.steps]) hlacks.readFile
      have hread := hlacks.readFile
      rw [readFile_of_nameless hfault hname hwalks] at hread
      cases hread
  · refine ⟨fun hread => ?_, fun hlacks => ?_⟩
    · rw [readFile_beside hsiblings hup hne ht hextends hsame, hread]
    · obtain ⟨x, hawaits, hx⟩ := hlacks.awaits hsiblings hup hne ht
      exact (hawaits.mono hextends ((hsame x hx).trans hawaits.entry_eq_none)).lacks

theorem Retains.of_beside (hbeside : p.Beside q) (ht : d.Names q t) (hextends : Extends d d')
    (hsame : ∀ x, x ≠ t → d'.entry? x = d.entry? x) : Retains p d d' := by
  obtain ⟨_, name', hname', -⟩ := fileName?_of_names ht
  obtain ⟨before, name, hne, hsiblings⟩ := hbeside name' hname'
  exact .of_siblings hsiblings hne ht hextends hsame

namespace Retains

theorem of_writeFile {content : ByteArray} (hbeside : p.Beside q)
    (h : d.writeFile q content = .ok d') : Retains p d d' := by
  have hextends := (stays_of_writeFile h).toExtends
  obtain ⟨t, ht, -, rfl⟩ := writeFile_iff.1 h
  refine .of_beside hbeside ht hextends fun x hx => ?_
  rw [entryAt_insert ht.ne_nil, if_neg hx]

theorem of_removeFile (hbeside : p.Beside q) (h : d.removeFile q = .ok d') : Retains p d d' := by
  have hextends := (stays_of_removeFile h).toExtends
  obtain ⟨t, content, ht, -, rfl⟩ := removeFile_iff.1 h
  refine .of_beside hbeside ht hextends fun x hx => ?_
  rw [entryAt_erase ht.ne_nil, if_neg hx]

theorem of_rename {r : Path} (hsource : p.Beside q) (htarget : p.Beside r)
    (h : d.rename q r = .ok d') : Retains p d d' := by
  obtain ⟨x, y, content, hx, hfile, hy, hfree, rfl⟩ := of_rename_ok h
  -- The file is taken away first and then put in its new place.
  have herased : d.removeFile q = .ok (d.erase x) := removeFile_iff.2 ⟨x, content, hx, hfile, rfl⟩
  have hextends := (stays_of_removeFile herased).toExtends
  have hwritten : (d.erase x).writeFile r content = .ok ((d.erase x).insert y (.file content)) := by
    refine writeFile_iff.2 ⟨y, hy.mono hextends, ?_, rfl⟩
    rw [entryAt_erase hx.ne_nil]
    split
    · exact nofun
    · exact hfree
  exact (of_removeFile hsource herased).trans (of_writeFile htarget hwritten)

end Retains

end Disk

end SchemaCodegen
