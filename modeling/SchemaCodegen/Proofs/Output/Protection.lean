import SchemaCodegen.Proofs.Output.Underway
import SchemaCodegen.Proofs.Text.Occurrence

/-!
# What becomes of protected files

A request to a protected path asks the machine for nothing, and no request ever changes or removes
a file that is protected by its name. New files with such a name do come into being: the temporary
file and the backup put text around the file name, which may complete the mark. That is so where
the name borders on the mark (`Path.BordersMark`), and nowhere else
(`request_spares_protected`).
-/

namespace SchemaCodegen

/-- Whether a file name contains the mark. -/
def isProtectedName (name : String) : Bool :=
  Text.contains (Text.asciiLower name) protectedMark

theorem Path.isProtected_eq (p : Path) : p.isProtected = p.fileName?.any isProtectedName := rfl

/-- The file name contains the mark once there is a point on either side of it. -/
def Path.BordersMark (p : Path) : Prop :=
  ∃ name, p.fileName? = some name ∧ isProtectedName ("." ++ name ++ ".") = true

/-- A file at the location is protected. -/
def Disk.HasProtectedName (x : Disk.Location) : Prop :=
  ∃ name, x.getLast? = some name ∧ isProtectedName name = true

/-! ## The mark in composed names -/

section Marks

/-- The characters of a text as far as the mark is concerned. -/
def markChars (s : String) : List Char :=
  s.toList.map Char.toLower

theorem markChars_append (s t : String) : markChars (s ++ t) = markChars s ++ markChars t := by
  simp [markChars]

theorem isProtectedName_iff {name : String} :
    isProtectedName name = true ↔ ['.', 'p', 'r', 't', '.'] <:+: markChars name := by
  rw [isProtectedName, Text.contains, Text.containsChars_iff, Text.asciiLower, String.toList_ofList]
  rfl

/-- Text with neither a slash nor the `r` of the mark. -/
def IsNeutral (s : String) : Prop :=
  ∀ c ∈ s.toList, c ≠ '/' ∧ c.toLower ≠ 'r'

-- Named, since the search may find the instance that goes through all characters there are.
instance (s : String) : Decidable (IsNeutral s) :=
  List.decidableBAll (fun c => c ≠ '/' ∧ c.toLower ≠ 'r') s.toList

theorem IsNeutral.append {s t : String} (hs : IsNeutral s) (ht : IsNeutral t) :
    IsNeutral (s ++ t) := by
  intro c hc
  rw [String.toList_append, List.mem_append] at hc
  exact hc.elim (hs c) (ht c)

theorem IsNeutral.isSegment {s : String} (h : IsNeutral s) : Path.IsSegment s :=
  fun hslash => (h '/' hslash).1 rfl

theorem not_mem_markChars {s : String} (h : IsNeutral s) : 'r' ∉ markChars s := by
  intro hmem
  obtain ⟨c, hc, hlower⟩ := List.mem_map.1 hmem
  exact (h c hc).2 hlower

/-- Behind a point, neutral text has no part in the mark. -/
theorem infix_append_iff {cs ds : List Char} (h : 'r' ∉ ds) :
    ['.', 'p', 'r', 't', '.'] <:+: cs ++ '.' :: ds ↔
      ['.', 'p', 'r', 't', '.'] <:+: cs ++ ['.'] := by
  constructor
  · rintro ⟨before, after, heq⟩
    rw [List.append_assoc, List.append_eq_append_iff] at heq
    rcases heq with ⟨rest, rfl, hrest⟩ | ⟨rest, rfl, hrest⟩
    · -- The mark starts in `cs`, and its last point is the one behind `cs` at the latest.
      rcases rest with _ | ⟨a, _ | ⟨b, _ | ⟨c, _ | ⟨e, rest⟩⟩⟩⟩
      · cases hrest
        simp at h
      · cases hrest
      · cases hrest
      · cases hrest
      · rcases rest with _ | ⟨point, rest⟩
        · cases hrest
          exact ⟨before, [], by simp⟩
        · cases hrest
          exact ⟨before, rest ++ ['.'], by simp⟩
    · have hmem : 'r' ∈ '.' :: ds := by simp [hrest]
      simp [h] at hmem
  · rintro ⟨before, after, heq⟩
    refine ⟨before, after ++ ds, ?_⟩
    rw [← List.append_assoc, heq, List.append_assoc]
    rfl

theorem isProtectedName_suffix {name suffix : String} (h : IsNeutral suffix) :
    isProtectedName (name ++ "." ++ suffix) = true ↔ isProtectedName (name ++ ".") = true := by
  have hpoint : markChars "." = ['.'] := by decide
  rw [isProtectedName_iff, isProtectedName_iff, markChars_append, markChars_append, hpoint,
    List.append_assoc]
  exact infix_append_iff (not_mem_markChars h)

theorem isProtectedName_append {s t : String} (h : isProtectedName t = true) :
    isProtectedName (s ++ t) = true := by
  rw [isProtectedName_iff] at h ⊢
  rw [markChars_append]
  exact h.trans (List.suffix_append _ _).isInfix

end Marks

/-! ## Names of the files beside a path -/

section Names

variable {path p : Path} {d : Disk} {x : Disk.Location}

theorem neutral_of_isDigit {c : Char} (h : c.isDigit = true) : c ≠ '/' ∧ c.toLower ≠ 'r' := by
  have digits : ∀ n ∈ List.range 58, 48 ≤ n →
      Char.ofNat n ≠ '/' ∧ (Char.ofNat n).toLower ≠ 'r' := by
    decide
  obtain ⟨hlow, hhigh⟩ := Char.isDigit_iff_toNat.1 h
  have hdigit := digits c.toNat (List.mem_range.2 (Nat.lt_succ_of_le hhigh)) hlow
  rwa [Char.ofNat_toNat] at hdigit

theorem isNeutral_repr (n : Nat) : IsNeutral (Nat.repr n) := by
  intro c hc
  rw [Nat.toList_repr] at hc
  exact neutral_of_isDigit (Nat.isDigit_of_mem_toDigits (by decide) (by decide) hc)

theorem neutral_of_mem_padded {width n : Nat} {c : Char} (h : c ∈ Instant.padded width n) :
    c ≠ '/' ∧ c.toLower ≠ 'r' := by
  rw [Instant.padded, List.mem_append] at h
  rcases h with h | h
  · rw [List.eq_of_mem_replicate h]
    decide
  · exact isNeutral_repr n c h

theorem isNeutral_stamp (t : Instant) : IsNeutral t.stamp := by
  have hyear : ∀ year : Int, ∀ c ∈ Instant.yearChars year, c ≠ '/' ∧ c.toLower ≠ 'r' := by
    intro year c hc
    unfold Instant.yearChars at hc
    split at hc
    · exact neutral_of_mem_padded hc
    · rcases List.mem_cons.1 hc with rfl | hc
      · split <;> decide
      · exact neutral_of_mem_padded hc
  intro c hc
  rw [Instant.stamp, String.toList_ofList] at hc
  simp only [List.append_assoc, List.cons_append, List.mem_append, List.mem_cons] at hc
  rcases hc with hc | hc | hc | rfl | hc | hc | hc | rfl | hc
  · exact hyear _ c hc
  · exact neutral_of_mem_padded hc
  · exact neutral_of_mem_padded hc
  · decide
  · exact neutral_of_mem_padded hc
  · exact neutral_of_mem_padded hc
  · exact neutral_of_mem_padded hc
  · decide
  · exact neutral_of_mem_padded hc

theorem isNeutral_simple (id : Uuid) : IsNeutral id.simple := by
  have digits : ∀ n ∈ List.range 16, Text.hexDigit n ≠ '/' ∧ (Text.hexDigit n).toLower ≠ 'r' := by
    decide
  intro c hc
  rw [Uuid.simple, String.toList_ofList] at hc
  obtain ⟨i, -, rfl⟩ := List.mem_map.1 hc
  exact digits _ (List.mem_range.2 (Nat.mod_lt _ (by decide)))

/-- A file beside a path is its temporary file, or it has its name with neutral text behind it. -/
theorem Output.Beside.temporary_or_suffix {path p : Path} (h : Output.Beside path p) :
    (∃ id, p = Output.temporaryPath path id) ∨
      ∃ suffix, IsNeutral suffix ∧ p = path.withSuffix suffix := by
  cases h with
  | temporary id => exact .inl ⟨id, rfl⟩
  | plain => exact .inr ⟨"bak", by decide, rfl⟩
  | stamped t => exact .inr ⟨_, (isNeutral_stamp t).append (by decide), rfl⟩
  | numbered t n =>
    have hstamp : IsNeutral (t.stamp ++ "_") := (isNeutral_stamp t).append (by decide)
    exact .inr ⟨_, (hstamp.append (isNeutral_repr n)).append (by decide), rfl⟩

/-- Whether the temporary file of a path is protected is decided by the name of the path. -/
theorem isProtected_temporaryPath (path : Path) (id : Uuid) :
    (Output.temporaryPath path id).isProtected = true ↔ path.BordersMark := by
  have htail : IsNeutral (id.simple ++ ".tmp") := (isNeutral_simple id).append (by decide)
  have hname : Output.temporaryName path id =
      "." ++ path.fileName?.getD "" ++ "." ++ (id.simple ++ ".tmp") := by
    rw [Output.temporaryName, String.append_assoc]
  rw [Path.isProtected_eq, Output.fileName?_temporaryPath, Option.any_some, hname,
    isProtectedName_suffix htail]
  constructor
  · intro h
    cases hpath : path.fileName? with
    | none =>
      rw [hpath] at h
      exact absurd h (by decide)
    | some name =>
      rw [hpath] at h
      exact ⟨name, hpath, h⟩
  · rintro ⟨name, hpath, h⟩
    rw [hpath]
    exact h

/-- Text behind a path does not make a protected name unless the path borders on the mark. -/
theorem bordersMark_of_withSuffix {path : Path} {suffix : String} {d : Disk} {x : Disk.Location}
    (hsuffix : IsNeutral suffix) (hnames : d.Names (path.withSuffix suffix) x)
    (hx : Disk.HasProtectedName x) : path.BordersMark := by
  obtain ⟨directory, name, hlocate, -, rfl⟩ := hnames
  obtain ⟨name', hlast, hprotected⟩ := hx
  rw [List.getLast?_concat, Option.some.injEq] at hlast
  subst hlast
  obtain ⟨last, hpath, hpathSuffix⟩ :=
    Path.getLast?_segments_withSuffix path hsuffix.isSegment
  have hname : name = last ++ "." ++ suffix := by
    have hfilled : (last ++ "." ++ suffix != "") = true := by simp [bne_iff_ne]
    have hlast : ((path.withSuffix suffix).segments.filter (· != "")).getLast? = _ :=
      Output.getLast?_filter_of_pos hpathSuffix hfilled
    rw [(Disk.of_locate hlocate).1] at hlast
    exact Option.some.inj hlast
  rw [hname, isProtectedName_suffix hsuffix] at hprotected
  -- Idle segments and `..` do not border on the mark, so `last` is the file name.
  have hother : ∀ s, isProtectedName (s ++ ".") = false → last ≠ s := by
    rintro s hs rfl
    rw [hs] at hprotected
    cases hprotected
  have hidle : (!Path.isIdle last) = true := by
    simp [Path.isIdle, hother "" (by decide), hother "." (by decide)]
  have hfile : path.fileName? = some last := Path.fileName?_eq_some_iff.2
    ⟨Output.getLast?_filter_of_pos hpath hidle, hother ".." (by decide)⟩
  refine ⟨last, hfile, ?_⟩
  rw [String.append_assoc]
  exact isProtectedName_append hprotected

end Names

/-! ## Requests and protected files -/

namespace Output

/-- Protected files are as they were, and a file that has become one borders on the mark. -/
structure Spares (path : Path) (d e : Disk) : Prop where
  kept : ∀ x content, Disk.HasProtectedName x → d.entry? x = some (.file content) →
    e.entry? x = some (.file content)
  created : ∀ x content, Disk.HasProtectedName x → e.entry? x = some (.file content) →
    d.entry? x ≠ some (.file content) → path.BordersMark

section Requests

variable {path p : Path} {d e : Disk} {x : Disk.Location}

theorem bordersMark_of_beside (h : Beside path p) (hnames : d.Names p x)
    (hx : Disk.HasProtectedName x) : path.BordersMark := by
  rcases h.temporary_or_suffix with ⟨id, htemporary⟩ | ⟨suffix, hsuffix, rfl⟩
  · rw [htemporary] at hnames
    obtain ⟨directory, name, hname, rfl⟩ := Disk.fileName?_of_names hnames
    obtain ⟨name', hlast, hprotected⟩ := hx
    rw [List.getLast?_concat, Option.some.injEq] at hlast
    subst hlast
    rw [← isProtected_temporaryPath path id, Path.isProtected_eq, hname, Option.any_some]
    exact hprotected
  · exact bordersMark_of_withSuffix hsuffix hnames hx

theorem Spares.refl (path : Path) (d : Disk) : Spares path d d :=
  ⟨fun _ _ _ h => h, fun _ _ _ h hnot => absurd h hnot⟩

theorem Spares.of_underway (h : Underway path d e) : Spares path d e := by
  obtain ⟨between, hgrown, hleaves⟩ := h
  constructor
  · intro x content _ hd
    exact hleaves.entry_some ((hgrown.entry x).entry_some hd)
  · intro x content hx he hd
    rcases hleaves.entry x with hsame | ⟨-, p, content', hp, hnames, -⟩
    · rw [hsame] at he
      exact absurd (hgrown.file_iff.1 he) hd
    · exact bordersMark_of_beside hp hnames hx

theorem Spares.of_touched (hopen : path.isProtected = false) (h : Touched path d e) :
    Spares path d e := by
  cases h with
  | underway h => exact .of_underway h
  | @moved before x hbefore hnames hothers =>
    have hspares : Spares path d before := .of_underway hbefore
    have hother : ∀ z, Disk.HasProtectedName z → z ≠ x := by
      rintro z ⟨name, hlast, hprotected⟩ rfl
      obtain ⟨directory, name', hname, rfl⟩ := Disk.fileName?_of_names hnames
      rw [List.getLast?_concat, Option.some.injEq] at hlast
      rw [Path.isProtected_eq, hname, Option.any_some, hlast, hprotected] at hopen
      cases hopen
    constructor
    · intro z content hz hd
      rw [hothers z (hother z hz)]
      exact hspares.kept z content hz hd
    · intro z content hz he hd
      rw [hothers z (hother z hz)] at he
      exact hspares.created z content hz he hd

theorem task_of_isProtected (h : path.isProtected = true) (request : Request) :
    request.task path = throw (.protectedFile path) := by
  have hfilled : path.isEmpty = false := by
    rw [Bool.eq_false_iff]
    intro hempty
    have htext : path = ⟨""⟩ := by
      cases path
      simpa [Path.isEmpty] using hempty
    rw [htext] at h
    exact absurd h (by decide)
  have hcheck : checkPath path = .error (.protectedFile path) := by
    rw [checkPath, hfilled, Path.ensureWritable, h]
    rfl
  cases request with
  | write content =>
    unfold Request.task Output.write
    rw [hcheck]
    rfl
  | update anchor replacement =>
    unfold Request.task Output.update
    rw [hcheck]
    rfl

/-- A request to a protected path asks for nothing. Whatever fails, and whoever goes away, no
request changes or removes a protected file at any of its moments, and a file that becomes one
borders on the mark; the temporary files of paths that do are protected files themselves. -/
theorem request_spares_protected (path : Path) (removes : Bool) (d : Disk) (request : Request) :
    (path.isProtected = true → request.task path = throw (.protectedFile path)) ∧
      (request.task path).Through (faultyTask path removes) (Spares path d)
        (fun _ => Spares path d) d ∧
      ∀ id, (temporaryPath path id).isProtected = true ↔ path.BordersMark := by
  refine ⟨fun h => task_of_isProtected h request, ?_, isProtected_temporaryPath path⟩
  cases hpath : path.isProtected with
  | true =>
    rw [task_of_isProtected hpath request]
    exact .refl path d
  | false =>
    exact (through_request request).mono (fun _ => .of_touched hpath) fun _ _ => .of_touched hpath

theorem request_spares_protected_report :
    (Request.write "new").task ⟨"Report.prt.cs"⟩ = throw (.protectedFile ⟨"Report.prt.cs"⟩) ∧
      ((temporaryPath ⟨"Report.cs"⟩ default).isProtected = true ↔
        (⟨"Report.cs"⟩ : Path).BordersMark) :=
  ⟨(request_spares_protected ⟨"Report.prt.cs"⟩ true oneFile (.write "new")).1 (by decide +kernel),
    (request_spares_protected ⟨"Report.cs"⟩ true oneFile (.write "new")).2.2 default⟩

/-- The backup of a path that is not protected may be a new protected file. -/
theorem backup_becomes_protected :
    let path : Path := ⟨"Report.prt"⟩
    let disk : Disk := (Disk.empty []).insert ["Report.prt"] (.file "old".toUTF8)
    let run := runAlone (write path "new") ⟨disk, ⟨0, 0⟩, 0, false⟩ default
    path.isProtected = false ∧ (plainBackup path).isProtected = true ∧
      disk.entry? ["Report.prt.bak"] = none ∧
      run.1 = .ok ⟨path, some (plainBackup path), 3⟩ ∧
      run.2.1.disk.entry? ["Report.prt.bak"] = some (.file "old".toUTF8) := by
  decide +kernel

end Requests

end Output

end SchemaCodegen
