import SchemaCodegen.Proofs.Output.Faults

/-!
# Files that a writing leaves behind

Until its last step a writing only adds files where nothing was: `Leaves paths d d'` says that `d'`
has such files at some of the paths and is otherwise `d`. Writing to an unused path adds it to the
paths (`Leaves.write`), removing the file takes it off again (`Leaves.discard`).
-/

namespace SchemaCodegen.Output

open Disk (Extends Grown PartlyWritten)

/-- There are new files at some of the paths where nothing was, and nothing else is different. -/
structure Leaves (paths : Path → Prop) (d d' : Disk) : Prop where
  workingDirectory : d'.workingDirectory = d.workingDirectory
  entry : ∀ x, d'.entry? x = d.entry? x ∨
    d.entry? x = none ∧ ∃ p content, paths p ∧ d.Names p x ∧ d'.entry? x = some (.file content)

namespace Leaves

variable {paths paths' : Path → Prop} {d d' d'' : Disk} {p path : Path} {content : ByteArray}
  {x : Disk.Location} {removes : Bool}

theorem refl (paths : Path → Prop) (d : Disk) : Leaves paths d d :=
  ⟨rfl, fun _ => .inl rfl⟩

theorem mono (h : Leaves paths d d') (hpaths : ∀ p, paths p → paths' p) : Leaves paths' d d' := by
  refine ⟨h.workingDirectory, fun x => ?_⟩
  rcases h.entry x with hsame | ⟨hnone, p, content, hp, hnew⟩
  · exact .inl hsame
  · exact .inr ⟨hnone, p, content, hpaths p hp, hnew⟩

theorem add (h : Leaves paths d d') (p : Path) : Leaves (fun q => q = p ∨ paths q) d d' :=
  h.mono fun _ hq => .inr hq

theorem entry_some {e : Disk.Entry} (h : Leaves paths d d') (hx : d.entry? x = some e) :
    d'.entry? x = some e := by
  rcases h.entry x with hsame | ⟨hnone, -⟩
  · rw [hsame, hx]
  · rw [hx] at hnone
    cases hnone

theorem entry_none (h : Leaves paths d d') (hx : d'.entry? x = none) : d.entry? x = none := by
  rcases h.entry x with hsame | ⟨hnone, -⟩
  · rw [← hsame, hx]
  · exact hnone

/-- Both disks have the same directories. -/
theorem toExtends (h : Leaves paths d d') : Extends d d' :=
  ⟨h.workingDirectory, fun _ => h.entry_some⟩

theorem ofExtends (h : Leaves paths d d') : Extends d' d := by
  refine ⟨h.workingDirectory.symm, fun x hx => ?_⟩
  rcases h.entry x with hsame | ⟨-, p, content, -, -, hfile⟩
  · rw [← hsame, hx]
  · rw [hx] at hfile
    cases hfile

theorem unused (h : Leaves paths d d') (hp : d'.Unused p) : d.Unused p :=
  fun x hx => h.entry_none (hp x (hx.mono h.toExtends))

theorem write (h : Leaves paths d d') (unused : d.Unused p) (hp : paths p)
    (hwrite : d'.writeFile p content = .ok d'') : Leaves paths d d'' := by
  obtain ⟨x, hnames, -, rfl⟩ := Disk.writeFile_iff.1 hwrite
  refine ⟨h.workingDirectory, fun y => ?_⟩
  rw [Disk.entryAt_insert hnames.ne_nil]
  split
  · next hyx =>
    subst hyx
    have hnames' : d.Names p y := hnames.mono h.ofExtends
    exact .inr ⟨unused y hnames', p, content, hp, hnames', rfl⟩
  · exact h.entry y

theorem partlyWritten (h : Leaves paths d d') (unused : d.Unused p) (hp : paths p)
    (hpart : PartlyWritten p d' d'') : Leaves paths d d'' := by
  rcases hpart with rfl | ⟨part, hwrite⟩
  · exact h
  · exact h.write unused hp hwrite

/-- What is removed is not left; what cannot be removed was not there, or removals may fail. -/
theorem discard (h : Leaves (fun q => q = p ∨ paths q) d d') (unused : d.Unused p)
    (hpaths : removes = false → paths p)
    (hrun : Script.Runs (faulty path removes) (Job.discard p) d' () d'') : Leaves paths d d'' := by
  obtain ⟨reply, hstep⟩ := Job.runs_discard.1 hrun
  cases reply with
  | ok _ =>
    obtain ⟨x, removed, hnames, -, rfl⟩ := Disk.removeFile_iff.1 hstep
    have hnames' : d.Names p x := hnames.mono h.ofExtends
    refine ⟨h.workingDirectory, fun y => ?_⟩
    rw [Disk.entryAt_erase hnames.ne_nil]
    split
    · next hyx =>
      subst hyx
      exact .inl (unused y hnames').symm
    · next hyx =>
      rcases h.entry y with hsame | ⟨hnone, q, content, rfl | hq, hnew, hfile⟩
      · exact .inl hsame
      · exact absurd (hnew.unique hnames') hyx
      · exact .inr ⟨hnone, q, content, hq, hnew, hfile⟩
  | error fault =>
    obtain ⟨rfl, hstays⟩ := hstep
    refine ⟨h.workingDirectory, fun y => ?_⟩
    rcases h.entry y with hsame | ⟨hnone, q, content, rfl | hq, hnew, hfile⟩
    · exact .inl hsame
    · cases removes with
      | false => exact .inr ⟨hnone, q, content, hpaths rfl, hnew, hfile⟩
      | true =>
        -- Removals work, so one that fails had nothing to remove.
        have hremove := Disk.removeFile_iff.2 ⟨y, content, hnew.mono h.toExtends, hfile, rfl⟩
        exact absurd hremove (hstays rfl _)
    · exact .inr ⟨hnone, q, content, hq, hnew, hfile⟩

/-- Where nothing may be left, only the directories are new. -/
theorem grown {left : Path → Prop} {between : Disk} (h : Leaves left between d')
    (hleft : ∀ p, ¬ left p) (hgrown : Grown paths d between) : Grown paths d d' := by
  refine ⟨h.workingDirectory.trans hgrown.workingDirectory, fun x => ?_⟩
  rcases h.entry x with hsame | ⟨-, p, -, hp, -⟩
  · exact (hgrown.entry x).of_eq h.toExtends hsame
  · exact absurd hp (hleft p)

end Leaves

end SchemaCodegen.Output
