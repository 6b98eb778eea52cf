import Mathlib.Data.String.Basic
import SchemaCodegen.Proofs.Template.Caching
import SchemaCodegen.Proofs.Template.Names

/-!
# Which template names are admitted

A name that is asked for is freed of the blanks at its ends, of backslashes and of one ending of
template files. What comes of it is told here by how the name is made up (`Name.ComesTo`), beside
the steps that compute it and beside the cut that is made at an offset in bytes
(`Name.stem_eq_stemInBytes`). A name is refused exactly if nothing is left of it or what is left
leads out of the root, and the file of any other is reached from the root without a step up
(`Name.normalize_admits`).
-/

namespace SchemaCodegen

namespace Template.Name

/-! ## One ending is dropped -/

/-- An ending of template files, its letter in either case. -/
def IsEnding (cs : List Char) : Prop :=
  Text.sameIgnoringAsciiCase cs ('.' :: extension.toList) = true

/-- The second text is the first one without the ending of template files, if there is one. -/
inductive DropsEnding : List Char → List Char → Prop where
  | dropped {front ending : List Char} (h : IsEnding ending) :
      DropsEnding (front ++ ending) front
  | bare {cs : List Char} (h : ∀ front ending, cs = front ++ ending → ¬ IsEnding ending) :
      DropsEnding cs cs

/-- What a name that is asked for comes to: the blanks at its ends are dropped, backslashes become
slashes, and then one ending is dropped. -/
def ComesTo (name spelled : String) : Prop :=
  ∃ trimmed, Text.Trims name.toList trimmed ∧ DropsEnding (trimmed.map slash) spelled.toList

variable {cs front ending : List Char}

theorem IsEnding.length_eq (h : IsEnding ending) : ending.length = extension.length + 1 := by
  have hlower : ending.map Char.toLower = ['.', 'j', '2'] := beq_iff_eq.1 h
  rw [← List.length_map, hlower]
  rfl

theorem stem_append (h : IsEnding ending) :
    stem (String.ofList (front ++ ending)) = String.ofList front := by
  have hsplit : (front ++ ending).length - (extension.length + 1) = front.length := by
    rw [List.length_append, h.length_eq, Nat.add_sub_cancel]
  unfold stem
  dsimp only
  rw [String.toList_ofList, hsplit, List.drop_left, List.take_left]
  exact if_pos h

theorem stem_of_bare (h : ∀ front ending, cs = front ++ ending → ¬ IsEnding ending) :
    stem (String.ofList cs) = String.ofList cs := by
  unfold stem
  dsimp only
  rw [String.toList_ofList]
  exact if_neg (h _ _ (List.take_append_drop _ cs).symm)

theorem dropsEnding_iff {spelled : List Char} :
    DropsEnding cs spelled ↔ String.ofList spelled = stem (String.ofList cs) := by
  constructor
  · rintro (hending | hbare)
    · exact (stem_append hending).symm
    · exact (stem_of_bare hbare).symm
  · intro h
    by_cases hsplit : ∃ front ending, cs = front ++ ending ∧ IsEnding ending
    · obtain ⟨front, ending, rfl, hending⟩ := hsplit
      rw [stem_append hending] at h
      rw [String.ofList_injective h]
      exact .dropped hending
    · have hbare : ∀ front ending, cs = front ++ ending → ¬ IsEnding ending :=
        fun front ending hcs hending => hsplit ⟨front, ending, hcs, hending⟩
      rw [stem_of_bare hbare] at h
      rw [String.ofList_injective h]
      exact .bare hbare

/-- A name comes to its canonical spelling and to nothing else. -/
theorem comesTo_iff {name spelled : String} :
    ComesTo name spelled ↔ spelled = canonical name := by
  simp only [ComesTo, Text.trims_iff, exists_eq_left, dropsEnding_iff, String.ofList_toList,
    canonical_eq]

/-! ## Cutting at an offset in bytes -/

/-- The two sides of an offset in the bytes of a text, unless it lies inside a character. -/
def cutAt? (text : String) (offset : Nat) : Option (String × String) := do
  let bytes := text.toUTF8
  let front ← String.fromUTF8? (bytes.extract 0 offset)
  let behind ← String.fromUTF8? (bytes.extract offset bytes.size)
  return (front, behind)

/-- The name without the ending of template files, which is looked for in the last bytes. -/
def stemInBytes (name : String) : String :=
  match cutAt? name (name.utf8ByteSize - ("." ++ extension).utf8ByteSize) with
  | some (front, ending) =>
    if Text.sameIgnoringAsciiCase ending.toList ('.' :: extension.toList) then front else name
  | none => name

theorem cutAt?_eq_some_iff {text front behind : String} {offset : Nat}
    (hoffset : offset ≤ text.utf8ByteSize) : cutAt? text offset = some (front, behind) ↔
      text = front ++ behind ∧ offset = front.utf8ByteSize := by
  have hcut : cutAt? text offset = some (front, behind) ↔
      text.toByteArray.extract 0 offset = front.toByteArray ∧
        text.toByteArray.extract offset text.toByteArray.size = behind.toByteArray := by
    simp [cutAt?, Option.bind_eq_some_iff, Job.fromUTF8?_eq_some_iff]
  rw [hcut]
  constructor
  · rintro ⟨hfront, hbehind⟩
    constructor
    · rw [← String.toByteArray_inj, String.toByteArray_append, ← hfront, ← hbehind,
        ByteArray.extract_append_extract, Nat.zero_min, String.size_toByteArray,
        Nat.max_eq_right hoffset, ← String.size_toByteArray, ByteArray.extract_zero_size]
    · have hsize := congrArg ByteArray.size hfront
      simpa [Nat.min_eq_left hoffset] using hsize
  · rintro ⟨rfl, rfl⟩
    rw [String.toByteArray_append]
    exact ⟨ByteArray.extract_append_eq_left rfl,
      ByteArray.extract_append_eq_right rfl (by simp)⟩

theorem utf8Size_of_toLower {c d : Char} (hd : d.val ≤ 127) (h : c.toLower = d) :
    c.utf8Size = 1 := by
  rw [Char.utf8Size_eq_one_iff]
  unfold Char.toLower at h
  split at h
  · next hupper => exact UInt32.le_trans hupper.2 (by decide)
  · exact h ▸ hd

/-- An ending takes as many bytes as it has characters. -/
theorem IsEnding.utf8ByteSize_eq (h : IsEnding ending) :
    (String.ofList ending).utf8ByteSize = ("." ++ extension).utf8ByteSize := by
  have hlower : ending.map Char.toLower = ['.', 'j', '2'] := beq_iff_eq.1 h
  obtain ⟨a, cs, rfl, ha, hcs⟩ := List.map_eq_cons_iff.1 hlower
  obtain ⟨b, cs, rfl, hb, hcs⟩ := List.map_eq_cons_iff.1 hcs
  obtain ⟨c, cs, rfl, hc, hcs⟩ := List.map_eq_cons_iff.1 hcs
  rw [List.map_eq_nil_iff.1 hcs, String.utf8ByteSize_ofList, String.utf8Len_cons,
    String.utf8Len_cons, String.utf8Len_cons, utf8Size_of_toLower (by decide) ha,
    utf8Size_of_toLower (by decide) hb, utf8Size_of_toLower (by decide) hc]
  rfl

/-- Looking at the last bytes is looking at the last characters, whatever they are. -/
theorem stem_eq_stemInBytes (name : String) : stem name = stemInBytes name := by
  unfold stemInBytes
  by_cases hsplit : ∃ front ending, name.toList = front ++ ending ∧ IsEnding ending
  · obtain ⟨front, ending, hname, hending⟩ := hsplit
    have htext : name = String.ofList front ++ String.ofList ending := by
      rw [← String.ofList_append, ← hname, String.ofList_toList]
    have hoffset : name.utf8ByteSize - ("." ++ extension).utf8ByteSize =
        (String.ofList front).utf8ByteSize := by
      rw [htext, String.utf8ByteSize_append, hending.utf8ByteSize_eq, Nat.add_sub_cancel]
    rw [(cutAt?_eq_some_iff (Nat.sub_le _ _)).2 ⟨htext, hoffset⟩]
    dsimp only
    rw [String.toList_ofList, ← stem_append hending, ← hname, String.ofList_toList]
    exact (if_pos hending).symm
  · have hbare : ∀ front ending, name.toList = front ++ ending → ¬ IsEnding ending :=
      fun front ending hname hending => hsplit ⟨front, ending, hname, hending⟩
    have hstem : stem name = name := by
      simpa using stem_of_bare hbare
    rw [hstem]
    split
    · next front ending hcut =>
      obtain ⟨htext, -⟩ := (cutAt?_eq_some_iff (Nat.sub_le _ _)).1 hcut
      exact (if_neg (hbare _ _ (by rw [htext, String.toList_append]))).symm
    · rfl

/-! ## Names that lead out of the root -/

/-- A path that starts at the root of the disk or has a segment that leads up. -/
def LeadsOut (text : String) : Prop :=
  (⟨text⟩ : Path).isAbsolute = true ∨ ".." ∈ (⟨text⟩ : Path).segments

instance (text : String) : Decidable (LeadsOut text) :=
  inferInstanceAs (Decidable (_ ∨ _))

theorem any_escapesRoot_eq_true_iff {text : String} :
    (Path.components ⟨text⟩).any escapesRoot = true ↔ LeadsOut text := by
  rw [← Bool.not_eq_false, any_escapesRoot_eq_false_iff, LeadsOut, Path.steps, List.mem_filter,
    Decidable.not_and_iff_not_or_not, Bool.not_eq_false, Decidable.not_not,
    and_iff_left (show (!Path.isIdle "..") = true from rfl)]

theorem not_leadsOut_append_extension {text : String} (h : ¬ LeadsOut text) (hfilled : text ≠ "") :
    ¬ LeadsOut (text ++ "." ++ extension) := by
  rintro (habsolute | hup)
  · refine h (.inl ?_)
    cases htext : text.toList with
    | nil => exact absurd (String.toList_eq_nil_iff.1 htext) hfilled
    | cons c cs => simpa [Path.isAbsolute, htext] using habsolute
  · obtain ⟨front, last, hsegments⟩ := Path.exists_segments_eq ⟨text⟩
    have hextended : (⟨text ++ "." ++ extension⟩ : Path).segments =
        front ++ [last ++ "." ++ extension] :=
      Path.segments_withSuffix hsegments (by decide)
    rw [hextended] at hup
    rcases List.mem_append.1 hup with hup | hup
    · refine h (.inr ?_)
      rw [hsegments]
      exact List.mem_append_left _ hup
    · -- The last segment ends like a template file, so it is not the one that leads up.
      have hlast := congrArg (fun s => s.toList.getLast?) (List.mem_singleton.1 hup)
      simp [extension] at hlast

/-- Replacing backslashes leaves none. -/
theorem not_mem_canonical (name : String) : '\\' ∉ (canonical name).toList := by
  intro h
  have hstem := stem_prefix (String.ofList ((Text.trimChars name.toList).map slash))
  rw [← canonical_eq, String.toList_ofList] at hstem
  obtain ⟨c, -, hc⟩ := List.mem_map.1 (hstem.subset h)
  exact slash_ne c hc

/-- The file of a template is the only one that is opened to read it, and it is reached from where
the root leads without a step up. -/
structure IsReadBelow (root : Path) (name : String) : Prop where
  asks : (Engine.read root name).Asks (· = Machine.Call.read (file root name))
  isAbsolute_eq : (file root name).isAbsolute = root.isAbsolute
  steps_eq : (file root name).steps =
    root.steps ++ (⟨name ++ "." ++ extension⟩ : Path).steps
  inside : ¬ LeadsOut (name ++ "." ++ extension)
  under : (file root name).LiesUnder root

theorem isReadBelow_of_not_leadsOut {text : String} (h : ¬ LeadsOut text) (hfilled : text ≠ "")
    (root : Path) : IsReadBelow root text := by
  have hinside := not_leadsOut_append_extension h hfilled
  obtain ⟨hrelative, hup⟩ := not_or.1 hinside
  have hrelative := Bool.eq_false_iff.2 hrelative
  have hsteps : ∀ step ∈ (⟨text ++ "." ++ extension⟩ : Path).steps, step ≠ ".." :=
    fun step hstep => ne_of_mem_of_not_mem (List.mem_filter.1 hstep).1 hup
  exact {
    asks := Engine.asks_read
    isAbsolute_eq := Path.isAbsolute_join hrelative root
    steps_eq := Path.steps_join hrelative root
    inside := hinside
    under := Path.forall_liesUnder_join_iff.2 (Path.staysInside_of_steps hrelative hsteps) root }

theorem normalize_eq (name : String) : normalize name =
    if canonical name = "" then .error (.invalidArgument "Template name must not be empty")
    else if LeadsOut (canonical name) then
      .error (.invalidArgument
        ("Template name '" ++ name ++ "' must be relative to the template root"))
    else .ok (canonical name) := by
  unfold normalize
  dsimp only
  simp only [String.isEmpty_iff, any_escapesRoot_eq_true_iff]

/-- An admitted name is filled and leads to a file below any root. Which names are admitted is told
by the one text that a name comes to, which does not depend on whether its end is looked at by
characters or by bytes: names are refused for being empty or for leading out, and for nothing
else. -/
theorem normalize_admits (name : String) :
    (∀ admitted, normalize name = .ok admitted →
      admitted ≠ "" ∧ '\\' ∉ admitted.toList ∧ ∀ root, IsReadBelow root admitted) ∧
    ∃ spelled, (∀ text, ComesTo name text ↔ text = spelled) ∧
      stemInBytes (Text.replace (Text.trim name) "\\" "/") = spelled ∧
      normalize name =
        if spelled = "" then .error (.invalidArgument "Template name must not be empty")
        else if LeadsOut spelled then
          .error (.invalidArgument
            ("Template name '" ++ name ++ "' must be relative to the template root"))
        else .ok spelled := by
  constructor
  · intro admitted h
    rw [normalize_eq] at h
    split at h
    · cases h
    next hfilled =>
    split at h
    · cases h
    next hinside =>
    obtain rfl := Except.ok.inj h
    exact ⟨hfilled, not_mem_canonical name, isReadBelow_of_not_leadsOut hinside hfilled⟩
  · exact ⟨canonical name, fun text => comesTo_iff, (stem_eq_stemInBytes _).symm,
      normalize_eq name⟩

example : normalize "\u00A0views\\caf\u00E9.J2 " = .ok "views/caf\u00E9" := by decide

end Template.Name

end SchemaCodegen
