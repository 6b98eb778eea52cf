import SchemaCodegen.Proofs.Disk.Parents
import SchemaCodegen.Proofs.Output.Writing

/-!
# The result of a writing

A writing that succeeds has replaced the file of its path and changed nothing else: `Replaced`
tells where the new and the old content are. `replaceContent` either comes to that, or it leaves
what `of_replaceContent_error` says.
-/

namespace SchemaCodegen.Output

open Disk (Extends Grown Kept Location)

/-- A path has a new content, and everything else is kept but for new directories above the path. -/
inductive Replaced (path : Path) (content : ByteArray) (d d' : Disk) : Option Path → Prop where
  /-- Nothing was there, and there is no backup. -/
  | created {x : Location} (workingDirectory : d'.workingDirectory = d.workingDirectory)
      (names : d'.Names path x) (before : d.entry? x = none)
      (after : d'.entry? x = some (.file content))
      (others : ∀ z, z ≠ x → Kept path.Above d d' z) : Replaced path content d d' none
  /-- The old content is in the backup, and nothing was in the place of the backup. -/
  | overwritten {x y : Location} {old : ByteArray} {backup : Path}
      (workingDirectory : d'.workingDirectory = d.workingDirectory)
      (names : d'.Names path x) (before : d.entry? x = some (.file old))
      (after : d'.entry? x = some (.file content))
      (namesBackup : d'.Names backup y) (free : d.entry? y = none)
      (saved : d'.entry? y = some (.file old))
      (others : ∀ z, z ≠ x → z ≠ y → Kept path.Above d d' z) :
      Replaced path content d d' (some backup)

/-! ## The name of the temporary file -/

section Names

variable {d : Disk} {path : Path} {id : Uuid} {x y : Location}

theorem isSegment_simple (id : Uuid) : Path.IsSegment id.simple := by
  intro hslash
  rw [Uuid.simple, String.toList_ofList] at hslash
  obtain ⟨i, -, hdigit⟩ := List.mem_map.1 hslash
  have hvalue := Text.hexValue?_hexDigit
    (Nat.mod_lt (id.bits.toNat >>> (4 * (31 - i))) (by decide))
  rw [hdigit] at hvalue
  cases hvalue

theorem getLast?_filter_of_pos {α : Type} {p : α → Bool} {l : List α} {a : α}
    (h : l.getLast? = some a) (hp : p a = true) : (l.filter p).getLast? = some a := by
  obtain ⟨l', rfl⟩ := List.getLast?_eq_some_iff.1 h
  rw [List.filter_append, List.filter_cons_of_pos hp, List.filter_nil, List.getLast?_concat]

/-- The name of the temporary file of a path. -/
def temporaryName (path : Path) (id : Uuid) : String :=
  "." ++ path.fileName?.getD "" ++ "." ++ id.simple ++ ".tmp"

theorem getLast?_segments_temporaryPath (path : Path) (id : Uuid) :
    (temporaryPath path id).segments.getLast? = some (temporaryName path id) := by
  refine Path.getLast?_segments_withFileName path ?_
  have hslash : Path.IsSegment (path.fileName?.getD "") := by
    cases hname : path.fileName? with
    | none => exact List.not_mem_nil
    | some name => exact Path.isSegment_fileName hname
  have hdigits := isSegment_simple id
  unfold Path.IsSegment at *
  simp [hslash, hdigits]

theorem length_temporaryName (path : Path) (id : Uuid) :
    (path.fileName?.getD "").length + 2 < (temporaryName path id).length := by
  have hpoint : ".".length = 1 := rfl
  have hmark : ".tmp".length = 4 := rfl
  simp only [temporaryName, String.length_append]
  omega

/-- The temporary file has a name of its own. -/
theorem fileName?_temporaryPath (path : Path) (id : Uuid) :
    (temporaryPath path id).fileName? = some (temporaryName path id) := by
  have hlength := length_temporaryName path id
  refine Path.fileName?_eq_some_iff.2 ⟨?_, ?_⟩
  · refine getLast?_filter_of_pos (getLast?_segments_temporaryPath path id) ?_
    have hidle : ∀ s, s.length ≤ 1 → temporaryName path id ≠ s := by
      rintro s hs rfl
      omega
    simp [Path.isIdle, hidle "" (by decide), hidle "." (by decide)]
  · intro hup
    rw [hup] at hlength
    have htwo : "..".length = 2 := rfl
    omega

/-- A path is never where its temporary file is. -/
theorem ne_of_names_temporaryPath (hx : d.Names (temporaryPath path id) x)
    (hy : d.Names path y) : x ≠ y := by
  obtain ⟨directory, name, hname, rfl⟩ := Disk.fileName?_of_names hy
  obtain ⟨directory', name', hname', rfl⟩ := Disk.fileName?_of_names hx
  have hlonger := length_temporaryName path id
  rw [fileName?_temporaryPath, Option.some.injEq] at hname'
  rw [hname, hname', Option.getD_some] at hlonger
  -- In one place both would have the same last name, but that of the temporary file is longer.
  intro heq
  obtain ⟨-, hsame⟩ := List.append_inj' heq rfl
  cases hsame
  omega

end Names

/-! ## The last step -/

section LastStep

variable {path temporary : Path} {removes : Bool} {d between stored saved d' : Disk}
  {paths : Path → Prop} {content old : ByteArray} {id : Uuid} {t x : Location}

/-- Moving the temporary file takes it from its place and puts it in that of the path. -/
theorem of_rename_temporary (hleaves : Leaves paths between saved)
    (hnames : between.Names temporary t) (hcontent : saved.entry? t = some (.file content))
    (hrename : saved.rename temporary path = .ok d') :
    ∃ x, between.Names path x ∧ Extends between d' ∧
      ∀ z, d'.entry? z =
        if z = x then some (.file content) else if z = t then none else saved.entry? z := by
  obtain ⟨t', x, content', hnames', hcontent', hx, hfile, rfl⟩ := Disk.of_rename_ok hrename
  have ht : t' = t := hnames'.unique (hnames.mono hleaves.toExtends)
  subst ht
  have hsame : content' = content := by
    rw [hcontent] at hcontent'
    cases hcontent'
    rfl
  subst hsame
  have hentry : ∀ z, Disk.entry? ((saved.erase t').insert x (.file content')) z =
      if z = x then some (.file content') else if z = t' then none else saved.entry? z := by
    intro z
    rw [Disk.entryAt_insert hx.ne_nil, Disk.entryAt_erase hnames.ne_nil]
  refine ⟨x, hx.mono hleaves.ofExtends, ⟨hleaves.workingDirectory, fun z hz => ?_⟩, hentry⟩
  have hdirectory := hleaves.toExtends.directory z hz
  have hzx : z ≠ x := by
    rintro rfl
    exact hfile hdirectory
  have hzt : z ≠ t' := by
    rintro rfl
    rw [hdirectory] at hcontent
    cases hcontent
  rw [hentry, if_neg hzx, if_neg hzt, hdirectory]

/-- Writing to an unused path changes the entry at one location, where nothing was. -/
theorem of_write_unused (hunused : between.Unused temporary)
    (hwrite : between.writeFile temporary content = .ok stored) :
    ∃ t, between.Names temporary t ∧ between.entry? t = none ∧
      stored.entry? t = some (.file content) ∧
      ∀ z, z ≠ t → stored.entry? z = between.entry? z := by
  obtain ⟨t, ht, -, rfl⟩ := Disk.writeFile_iff.1 hwrite
  refine ⟨t, ht, hunused t ht, ?_, fun z hz => ?_⟩
  · rw [Disk.entryAt_insert ht.ne_nil, if_pos rfl]
  · rw [Disk.entryAt_insert ht.ne_nil, if_neg hz]

theorem replaced_of_absent (hgrown : Grown path.Above d between)
    (hunused : between.Unused temporary)
    (hwrite : between.writeFile temporary content = .ok stored)
    (hprobe : stored.probe path = .ok false) (hrename : stored.rename temporary path = .ok d') :
    Replaced path content d d' none := by
  have hstored : Leaves (· = temporary) between stored :=
    (Leaves.refl _ between).write hunused rfl hwrite
  obtain ⟨t, ht, hfree, hthere, haway⟩ := of_write_unused hunused hwrite
  obtain ⟨x, hx, hextends, hentry⟩ := of_rename_temporary hstored ht hthere hrename
  have hempty : stored.entry? x = none :=
    Disk.eq_none_of_probe hprobe (hx.mono hstored.toExtends)
  have hkept : ∀ z, z ≠ x → d'.entry? z = between.entry? z := by
    intro z hz
    rw [hentry, if_neg hz]
    split
    · next hzt => rw [hzt, hfree]
    · next hzt => exact haway z hzt
  exact .created (hextends.workingDirectory.trans hgrown.workingDirectory) (hx.mono hextends)
    (hgrown.entry_none (hstored.entry_none hempty)) (by rw [hentry, if_pos rfl])
    fun z hz => (hgrown.entry z).of_eq hextends (hkept z hz)

theorem replaced_of_present {backup : Path} (hgrown : Grown path.Above d between)
    (hunused : between.Unused (temporaryPath path id))
    (hwrite : between.writeFile (temporaryPath path id) content = .ok stored)
    (hprobe : stored.probe backup = .ok false) (hread : stored.readFile path = .ok old)
    (hcopy : stored.writeFile backup old = .ok saved)
    (hrename : saved.rename (temporaryPath path id) path = .ok d') :
    Replaced path content d d' (some backup) := by
  have hstored : Leaves (· = temporaryPath path id) between stored :=
    (Leaves.refl _ between).write hunused rfl hwrite
  obtain ⟨t, ht, hfree, hthere, haway⟩ := of_write_unused hunused hwrite
  obtain ⟨x, hx, hold⟩ := Disk.readFile_iff.1 hread
  have hunused' : stored.Unused backup := fun y hy => Disk.eq_none_of_probe hprobe hy
  have hsaved : Leaves (fun q => q = backup ∨ q = temporaryPath path id) between saved :=
    (hstored.add backup).write (hstored.unused hunused') (.inl rfl) hcopy
  obtain ⟨y, hy, hempty, hcopied, hbeside⟩ := of_write_unused hunused' hcopy
  -- The backup is neither the path nor the temporary file, since both of them are there.
  have hyt : y ≠ t := by
    rintro rfl
    rw [hempty] at hthere
    cases hthere
  have hyx : y ≠ x := by
    rintro rfl
    rw [hempty] at hold
    cases hold
  obtain ⟨x', hx', hextends, hentry⟩ :=
    of_rename_temporary hsaved ht ((hbeside t hyt.symm).trans hthere) hrename
  have hsame : x' = x := (hx'.mono hstored.toExtends).unique hx
  subst hsame
  -- That the path is not the temporary file is known from their names alone.
  have hxt : x' ≠ t := (ne_of_names_temporaryPath ht hx').symm
  have hkept : ∀ z, z ≠ x' → z ≠ y → d'.entry? z = between.entry? z := by
    intro z hzx hzy
    rw [hentry, if_neg hzx, hbeside z hzy]
    split
    · next hzt => rw [hzt, hfree]
    · next hzt => exact haway z hzt
  refine .overwritten (hextends.workingDirectory.trans hgrown.workingDirectory)
    (hx'.mono hextends) (hgrown.file_iff.1 ((haway x' hxt).symm.trans hold))
    (by rw [hentry, if_pos rfl]) ((hy.mono hstored.ofExtends).mono hextends)
    (hgrown.entry_none (hstored.entry_none hempty)) ?_
    fun z hzx hzy => (hgrown.entry z).of_eq hextends (hkept z hzx hzy)
  rw [hentry, if_neg hyx, if_neg hyt, hcopied]

theorem replaced_of_install {written : Written} (hgrown : Grown path.Above d between)
    (hunused : between.Unused (temporaryPath path id))
    (h : Procedure.Runs (faulty path removes) (install (temporaryPath path id) path content)
      between (.ok written) d') : Replaced path content d d' written.backup := by
  obtain ⟨stored, saved, hwrite, hbackup, hrename⟩ := of_install_ok h
  rcases hbackup with ⟨hnone, hprobe, rfl⟩ | ⟨backup, old, hsome, hprobe, hread, hcopy⟩
  · rw [hnone]
    exact replaced_of_absent hgrown hunused hwrite hprobe hrename
  · rw [hsome]
    exact replaced_of_present hgrown hunused hwrite hprobe hread hcopy hrename

end LastStep

end SchemaCodegen.Output
