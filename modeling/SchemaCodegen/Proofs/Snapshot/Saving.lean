import SchemaCodegen.Proofs.Disk.Descent
import SchemaCodegen.Proofs.Repository.Document
import SchemaCodegen.Proofs.Snapshot.Acceptance
import SchemaCodegen.Snapshot.Store

/-!
# Saving a snapshot

New text goes to a file beside the stored one and is then moved over it. Whatever fails on the way,
what is loaded afterwards is the new snapshot or what was loaded before (`saves_are_atomic`). To
what was loaded before belongs what would have been loaded had the directories above the path been
there, since these are created first: where nothing is at all, `d/../d` is missing until then.
-/

namespace SchemaCodegen

namespace Disk

variable {d d' : Disk} {p source target : Path} {content : ByteArray}

theorem SameFiles.of_writeFile (h : d.writeFile p content = .ok d') : SameFiles (· = p) d d' := by
  obtain ⟨x, hx, -, rfl⟩ := writeFile_iff.1 h
  have hextends := (stays_of_writeFile h).toExtends
  refine ⟨hextends, fun hz => ?_⟩
  rw [entryAt_insert hx.ne_nil, if_neg]
  rintro rfl
  exact hz p rfl (hx.mono hextends)

theorem SameFiles.of_move (h : d.rename source target = .ok d') :
    SameFiles (fun p => p = source ∨ p = target) d d' := by
  have hextends := (stays_of_rename h).toExtends
  obtain ⟨x, y, content, hx, -, hy, -, rfl⟩ := of_rename_ok h
  refine ⟨hextends, fun {z bytes} hz => ?_⟩
  have hzx : z ≠ x := by
    rintro rfl
    exact hz source (.inl rfl) (hx.mono hextends)
  have hzy : z ≠ y := by
    rintro rfl
    exact hz target (.inr rfl) (hy.mono hextends)
  rw [entryAt_insert hy.ne_nil, if_neg hzy, entryAt_erase hx.ne_nil, if_neg hzx]

/-- A file that was moved is read where it went. -/
theorem readFile_of_rename (h : d.rename source target = .ok d')
    (hread : d.readFile source = .ok content) : d'.readFile target = .ok content := by
  have hextends := (stays_of_rename h).toExtends
  obtain ⟨x, y, moved, hx, hfile, hy, -, rfl⟩ := of_rename_ok h
  obtain ⟨x', hx', hfile'⟩ := readFile_iff.1 hread
  obtain rfl := hx'.unique hx
  rw [hfile] at hfile'
  cases hfile'
  exact readFile_iff.2 ⟨y, hy.mono hextends, by rw [entryAt_insert hy.ne_nil, if_pos rfl]⟩

theorem readFile_of_writeFile (h : d.writeFile p content = .ok d') :
    d'.readFile p = .ok content := by
  have hextends := (stays_of_writeFile h).toExtends
  obtain ⟨x, hx, -, rfl⟩ := writeFile_iff.1 h
  exact readFile_iff.2 ⟨x, hx.mono hextends, by rw [entryAt_insert hx.ne_nil, if_pos rfl]⟩

end Disk

namespace Snapshot

open Disk (SameFiles)
open Output (faulty)

variable {path : Path} {s : Snapshot} {d d' : Disk} {outcome : Outcome Unit}

/-! ## What is loaded -/

/-- A snapshot such as there are: it was accepted, and its time is one that a clock can show. -/
structure IsGenuine (s : Snapshot) : Prop where
  usable : s.validated = .ok s
  timely : s.analyzedAt.IsSupported

/-- What is loaded from a disk on a machine without faults. -/
def loaded (path : Path) (d : Disk) : Outcome (Option Snapshot) :=
  (World.run (load path) ⟨d, ⟨0, 0⟩, 0, false⟩).1

theorem loaded_eq (path : Path) (d : Disk) : loaded path d =
    match Job.textOf (d.readFile path) with
    | .error .notFound => .ok none
    | .error fault => .error (.io fault)
    | .ok text => some <$> ofText text := by
  have hruns : Script.Runs (.ofAnswer World.answer) (Job.tryReadText path) ⟨d, ⟨0, 0⟩, 0, false⟩
      (Job.textOf (d.readFile path)) ⟨d, ⟨0, 0⟩, 0, false⟩ :=
    Job.runs_tryReadText.2 ⟨d.readFile path, rfl, rfl⟩
  have hload : ∀ loaded, Procedure.Runs (.ofAnswer World.answer) (load path)
      ⟨d, ⟨0, 0⟩, 0, false⟩ loaded ⟨d, ⟨0, 0⟩, 0, false⟩ → Snapshot.loaded path d = loaded :=
    fun loaded h => congrArg Prod.fst (Script.runs_ofAnswer.1 h)
  refine hload _ (Procedure.runs_bind.2 (.inr ⟨_, _, Procedure.runs_ofScript_ok.2 hruns, ?_⟩))
  cases Job.textOf (d.readFile path) with
  | error fault => cases fault <;> exact ⟨rfl, rfl⟩
  | ok text =>
    change Procedure.Runs _ (some <$> Procedure.ofOutcome (ofText text)) _ (some <$> ofText text) _
    generalize ofText text = parsed
    cases parsed <;> exact ⟨rfl, rfl⟩

theorem loaded_congr (h : d'.readFile path = d.readFile path) : loaded path d' = loaded path d := by
  rw [loaded_eq, loaded_eq, h]

theorem loaded_of_missing (h : d.readFile path = .error .notFound) : loaded path d = .ok none := by
  rw [loaded_eq, h]
  rfl

theorem IsGenuine.ofText_toText_eq (hs : s.IsGenuine) : ofText s.toText = .ok s := by
  rw [ofText_eq_validated (decodeText_toText hs.timely), hs.usable]

theorem IsGenuine.loaded_eq (hs : s.IsGenuine) (h : d.readFile path = .ok s.toText.toUTF8) :
    loaded path d = .ok (some s) := by
  rw [Snapshot.loaded_eq, h, Job.textOf_eq_ok_iff.2 rfl]
  dsimp only
  rw [hs.ofText_toText_eq]
  rfl

/-! ## What one save leaves -/

/-- The directory that the path is looked up in is there. -/
def IsReached (path : Path) (d : Disk) : Prop :=
  ∃ x, path.steps.dropLast.foldlM d.enter (d.start path) = .ok x

theorem IsReached.mono (h : IsReached path d) (hextends : Disk.Extends d d') :
    IsReached path d' := by
  obtain ⟨x, hx⟩ := h
  refine ⟨x, ?_⟩
  rw [show d'.start path = d.start path by
    rw [Disk.start, Disk.start, hextends.workingDirectory]]
  exact hextends.foldlM_enter hx

/-- What is written beside the stored snapshot, if that can be done at all, is not read from its
path. -/
theorem of_write_temporary {content : ByteArray}
    (h : d.writeFile (temporaryPath path) content = .ok d') :
    IsReached path d ∧ d'.readFile path = d.readFile path := by
  have hextends := (Disk.stays_of_writeFile h).toExtends
  obtain ⟨t, ht, -, rfl⟩ := Disk.writeFile_iff.1 h
  cases hname : path.fileName? with
  | none =>
    have hsame : temporaryPath path = path := by
      unfold temporaryPath Path.withExtension
      simp only [hname]
    rw [hsame] at ht
    obtain ⟨directory, name, hname', -⟩ := Disk.fileName?_of_names ht
    rw [hname] at hname'
    cases hname'
  | some name =>
    have hsegment : Path.IsSegment "json.tmp" := by decide
    obtain ⟨hne, before, hsiblings⟩ := Path.siblings_withExtension hname hsegment (by decide)
    have hup : name ≠ ".." := (Path.fileName?_eq_some_iff.1 hname).2
    constructor
    · obtain ⟨directory, hwalk, -⟩ := ht.of_siblings hsiblings
      refine ⟨directory, ?_⟩
      rw [hsiblings.steps, List.dropLast_concat, hwalk]
    · refine Disk.readFile_beside hsiblings hup hne ht hextends fun x hx => ?_
      rw [Disk.entryAt_insert ht.ne_nil, if_neg hx]

-- What these paths are does not matter from here on, and unfolding them takes long.
attribute [local irreducible] temporaryPath Path.realParent?

theorem save_eq (path : Path) (s : Snapshot) : save path s = (do
    Output.createParents path
    Job.write (temporaryPath path) s.toText.toUTF8
    Job.rename (temporaryPath path) path) := by
  unfold save Output.createParents
  cases path.realParent? <;> rfl

/-- A save puts the text in place of the stored one, or it fails and leaves at most a file beside
it. The directories above come first. -/
theorem of_save (h : Procedure.Runs (faulty path true) (save path s) d outcome d') :
    ∃ between, d.Makes path.Above between ∧
      ((outcome = .ok () ∧ ∃ stored,
          between.writeFile (temporaryPath path) s.toText.toUTF8 = .ok stored ∧
            stored.rename (temporaryPath path) path = .ok d') ∨
        (∃ failure, outcome = .error failure) ∧
          Disk.PartlyWritten (temporaryPath path) between d') := by
  rw [save_eq] at h
  rcases Procedure.runs_bind.1 h with ⟨failure, rfl, hparents⟩ | ⟨_, between, hparents, h⟩
  · exact ⟨d', Output.of_createParents hparents, .inr ⟨⟨failure, rfl⟩, .inl rfl⟩⟩
  refine ⟨between, Output.of_createParents hparents, ?_⟩
  rcases Procedure.runs_bind.1 h with ⟨failure, rfl, hwrite⟩ | ⟨_, stored, hwrite, hrename⟩
  · obtain ⟨fault, -, hwrite⟩ := Job.runs_ofDisk_error.1 hwrite
    exact .inr ⟨⟨failure, rfl⟩, Script.runs_call.1 hwrite⟩
  have hwritten : between.writeFile (temporaryPath path) s.toText.toUTF8 = .ok stored :=
    Script.runs_call.1 (Job.runs_ofDisk_ok.1 hwrite)
  cases outcome with
  | ok _ =>
    exact .inl ⟨rfl, stored, hwritten, Script.runs_call.1 (Job.runs_ofDisk_ok.1 hrename)⟩
  | error failure =>
    obtain ⟨fault, -, hrename⟩ := Job.runs_ofDisk_error.1 hrename
    obtain rfl : d' = stored := Script.runs_call.1 hrename
    exact .inr ⟨⟨failure, rfl⟩, .inr ⟨_, hwritten⟩⟩

/-- A successful save can be read back, and all files but the two that it is about are as they
were. -/
theorem of_save_ok (h : Procedure.Runs (faulty path true) (save path s) d (.ok ()) d') :
    d'.readFile path = .ok s.toText.toUTF8 ∧
      SameFiles (fun p => p = temporaryPath path ∨ p = path) d d' := by
  obtain ⟨between, hmakes, ⟨-, stored, hwrite, hrename⟩ | ⟨⟨failure, hnever⟩, -⟩⟩ := of_save h
  · refine ⟨Disk.readFile_of_rename hrename (Disk.readFile_of_writeFile hwrite), ?_⟩
    have hgrown : SameFiles (fun p => p = temporaryPath path ∨ p = path) d between :=
      .of_grown hmakes.grown
    have hwritten : SameFiles (fun p => p = temporaryPath path ∨ p = path) between stored :=
      (SameFiles.of_writeFile hwrite).mono fun _ => .inl
    exact (hgrown.trans hwritten).trans (SameFiles.of_move hrename)
  · cases hnever

/-- A save that fails leaves what is read from the path, but for directories that it created. Where
these were there, none is created by later saves. -/
theorem of_save_error {failure : Failure}
    (h : Procedure.Runs (faulty path true) (save path s) d (.error failure) d') :
    SameFiles (· = temporaryPath path) d d' ∧ ∃ between, d.Makes path.Above between ∧
      d'.readFile path = between.readFile path ∧ (d' = between ∨ IsReached path d') := by
  obtain ⟨between, hmakes, ⟨hnever, -⟩ | ⟨-, rfl | ⟨part, hwrite⟩⟩⟩ := of_save h
  · cases hnever
  · exact ⟨.of_grown hmakes.grown, d', hmakes, rfl, .inl rfl⟩
  · obtain ⟨hreached, hread⟩ := of_write_temporary hwrite
    have hgrown : SameFiles (· = temporaryPath path) d between := .of_grown hmakes.grown
    exact ⟨hgrown.trans (.of_writeFile hwrite), between, hmakes, hread,
      .inr (hreached.mono (Disk.stays_of_writeFile hwrite).toExtends)⟩

/-! ## Saves one after the other -/

/-- Saves of snapshots, each with what it was answered, whatever failed. -/
inductive Saves (path : Path) (d : Disk) : List (Snapshot × Outcome Unit) → Disk → Prop where
  | start : Saves path d [] d
  | save {saves : List (Snapshot × Outcome Unit)} {between d' : Disk} {s : Snapshot}
      {outcome : Outcome Unit} (before : Saves path d saves between)
      (run : Procedure.Runs (faulty path true) (Snapshot.save path s) between outcome d') :
      Saves path d (saves ++ [(s, outcome)]) d'

/-- The snapshot that was saved last by a save that succeeded. -/
def lastSaved (saves : List (Snapshot × Outcome Unit)) : Option Snapshot :=
  saves.foldl (fun last save => if save.2 = .ok () then some save.1 else last) none

variable {saves : List (Snapshot × Outcome Unit)}

theorem lastSaved_concat (saves : List (Snapshot × Outcome Unit)) (s : Snapshot)
    (outcome : Outcome Unit) : lastSaved (saves ++ [(s, outcome)]) =
      if outcome = .ok () then some s else lastSaved saves := by
  rw [lastSaved, List.foldl_concat]
  rfl

theorem isGenuine_of_lastSaved (h : ∀ save ∈ saves, save.1.IsGenuine)
    (hlast : lastSaved saves = some s) : s.IsGenuine := by
  induction saves using List.reverseRecOn with
  | nil => cases hlast
  | append_singleton saves save ih =>
    obtain ⟨saved, outcome⟩ := save
    rw [lastSaved_concat] at hlast
    split at hlast
    · cases hlast
      exact h (s, outcome) (by simp)
    · exact ih (fun save hsave => h save (List.mem_append_left _ hsave)) hlast

/-- What is loaded is what was loaded before, or would have been had some of the directories above
the path been there. -/
def LoadsAlike (path : Path) (d d' : Disk) : Prop :=
  ∃ between, d.Makes path.Above between ∧ loaded path d' = loaded path between

theorem LoadsAlike.eq_of_steady (h : LoadsAlike path d d') (hsteady : d.Steady path) :
    loaded path d' = loaded path d := by
  obtain ⟨between, hmakes, hloaded⟩ := h
  rw [hloaded, loaded_congr (hsteady between hmakes)]

/-- What is read from the path after saves: the last one that succeeded, or what was read at the
start. -/
theorem Saves.read (h : Saves path d saves d') :
    (∀ s, lastSaved saves = some s → d'.readFile path = .ok s.toText.toUTF8) ∧
      (lastSaved saves = none → ∃ between, d.Makes path.Above between ∧
        d'.readFile path = between.readFile path ∧ (d' = between ∨ IsReached path d')) := by
  induction h with
  | start =>
    refine ⟨?_, fun _ => ⟨d, .none, rfl, .inl rfl⟩⟩
    intro s hs
    cases hs
  | @save saves before d' s outcome _ run ih =>
    rw [lastSaved_concat]
    cases outcome with
    | ok _ =>
      rw [if_pos rfl]
      refine ⟨?_, nofun⟩
      rintro s ⟨⟩
      exact (of_save_ok run).1
    | error failure =>
      rw [if_neg nofun]
      obtain ⟨-, between, hmakes, hread, hreached⟩ := of_save_error run
      constructor
      · intro s hs
        have hbefore := ih.1 s hs
        obtain ⟨x, hnames, -⟩ := Disk.readFile_iff.1 hbefore
        rw [hread, hmakes.eq_of_names hnames, hbefore]
      · intro hnone
        obtain ⟨first, hfirst, hread', rfl | hreached'⟩ := ih.2 hnone
        · exact ⟨between, hfirst.trans hmakes, hread, hreached⟩
        · -- The directory of the path is there, so no other was created.
          obtain rfl := hmakes.eq_of_walked hreached'
          refine ⟨first, hfirst, hread.trans hread', .inr ?_⟩
          rcases hreached with rfl | hreached
          · exact hreached'
          · exact hreached

/-- A save is atomic: the snapshot can be loaded, or what was loaded before; but for the stored
snapshot, when it was replaced, and for the file beside it no file is another. -/
def IsAtomic (path : Path) (s : Snapshot) (d d' : Disk) : Outcome Unit → Prop
  | .ok _ => loaded path d' = .ok (some s) ∧
      SameFiles (fun p => p = temporaryPath path ∨ p = path) d d'
  | .error _ => LoadsAlike path d d' ∧ (d.Steady path → loaded path d' = loaded path d) ∧
      SameFiles (· = temporaryPath path) d d'

theorem isAtomic_of_save (hs : s.IsGenuine)
    (h : Procedure.Runs (faulty path true) (save path s) d outcome d') :
    IsAtomic path s d d' outcome := by
  cases outcome with
  | ok _ =>
    obtain ⟨hread, hfiles⟩ := of_save_ok h
    exact ⟨hs.loaded_eq hread, hfiles⟩
  | error failure =>
    obtain ⟨hfiles, between, hmakes, hread, -⟩ := of_save_error h
    have halike : LoadsAlike path d d' := ⟨between, hmakes, loaded_congr hread⟩
    exact ⟨halike, halike.eq_of_steady, hfiles⟩

/-- Whatever fails while snapshots are saved, what is loaded afterwards is the snapshot of the last
save that succeeded. Where none did it is what was loaded at the start, as far as that does not
depend on directories that the saves create (`Disk.Steady`), and nothing if the file was missing. It
does not depend on them where the directory of the path is there, nor for a path that only leads
down. -/
theorem saves_are_atomic (path : Path) :
    (∀ s d d' outcome, s.IsGenuine →
      Procedure.Runs (faulty path true) (save path s) d outcome d' →
      IsAtomic path s d d' outcome) ∧
    (∀ saves d d', (∀ save ∈ saves, save.1.IsGenuine) → Saves path d saves d' →
      (∀ s, lastSaved saves = some s → loaded path d' = .ok (some s)) ∧
      (lastSaved saves = none → LoadsAlike path d d' ∧
        (d.Steady path → loaded path d' = loaded path d) ∧
        (d.Lacks path → loaded path d' = .ok none))) ∧
    ∀ d, (IsReached path d ∨ d.IsTree ∧ ".." ∉ path.steps ∧
      ∀ s ∈ path.steps, Disk.isTooLong s = false) → d.Steady path := by
  refine ⟨fun s d d' outcome hs h => isAtomic_of_save hs h, ?_, ?_⟩
  · intro saves d d' hgenuine h
    obtain ⟨hsaved, hnone⟩ := h.read
    constructor
    · intro s hs
      exact (isGenuine_of_lastSaved hgenuine hs).loaded_eq (hsaved s hs)
    · intro hlast
      obtain ⟨between, hmakes, hread, -⟩ := hnone hlast
      have halike : LoadsAlike path d d' := ⟨between, hmakes, loaded_congr hread⟩
      refine ⟨halike, halike.eq_of_steady, fun hlacks => ?_⟩
      rw [halike.eq_of_steady hlacks.steady, loaded_of_missing hlacks.readFile]
  · rintro d (hreached | ⟨htree, hdown, hshort⟩)
    · exact .of_walked hreached
    · exact .of_down htree hdown hshort

section Bare

/-- A snapshot without tables. -/
def bare (version : String) : Snapshot :=
  ⟨"db", "local", version, ⟨0, 0⟩, [], []⟩

def bareStored : Disk :=
  (Disk.empty []).insert ["b.json.tmp"] (.file (bare "1").toText.toUTF8)

/-- The disk after the first snapshot was saved. -/
def bareSaved : Disk :=
  (bareStored.erase ["b.json.tmp"]).insert ["b"] (.file (bare "1").toText.toUTF8)

theorem bare_isGenuine (version : String) : (bare version).IsGenuine := by
  refine ⟨rfl, ?_⟩
  change Instant.IsSupported ⟨0, 0⟩
  decide

theorem runs_save_b {version : String}
    (h : Procedure.Runs (faulty ⟨"b"⟩ true) (do
      Job.write ⟨"b.json.tmp"⟩ (bare version).toText.toUTF8
      Job.rename ⟨"b.json.tmp"⟩ ⟨"b"⟩) d outcome d') :
    Procedure.Runs (faulty ⟨"b"⟩ true) (save ⟨"b"⟩ (bare version)) d outcome d' := by
  have hparent : Path.realParent? ⟨"b"⟩ = none := by decide +kernel
  have htemporary : temporaryPath ⟨"b"⟩ = ⟨"b.json.tmp"⟩ := by decide +kernel
  unfold save
  rw [hparent, htemporary]
  exact h

theorem runs_save_b_ok : Procedure.Runs (faulty ⟨"b"⟩ true) (save ⟨"b"⟩ (bare "1"))
    (Disk.empty []) (.ok ()) bareSaved := by
  have hwrite : (Disk.empty []).writeFile ⟨"b.json.tmp"⟩ (bare "1").toText.toUTF8 =
      .ok bareStored := by decide +kernel
  have hrename : bareStored.rename ⟨"b.json.tmp"⟩ ⟨"b"⟩ = .ok bareSaved := by decide +kernel
  exact runs_save_b (Procedure.runs_bind_ok.2 ⟨(), bareStored,
    Job.runs_ofDisk_ok.2 (Script.runs_call.2 hwrite),
    Job.runs_ofDisk_ok.2 (Script.runs_call.2 hrename)⟩)

/-- The disk is busy when the second snapshot is to be written. -/
theorem runs_save_b_busy : Procedure.Runs (faulty ⟨"b"⟩ true) (save ⟨"b"⟩ (bare "2"))
    bareSaved (.error (.io .busy)) bareSaved :=
  runs_save_b (Procedure.runs_bind.2 (.inl ⟨_, rfl,
    Job.runs_ofDisk_error.2 ⟨.busy, rfl, Script.runs_call.2 (.inl rfl)⟩⟩))

theorem saves_are_atomic_bare :
    let saves : List (Snapshot × Outcome Unit) :=
      [(bare "1", .ok ()), (bare "2", .error (.io .busy))]
    (∀ save ∈ saves, save.1.IsGenuine) ∧ Saves ⟨"b"⟩ (Disk.empty []) saves bareSaved ∧
      IsAtomic ⟨"b"⟩ (bare "2") bareSaved bareSaved (.error (.io .busy)) ∧
      loaded ⟨"b"⟩ bareSaved = .ok (some (bare "1")) ∧ bareSaved.Steady ⟨"b"⟩ := by
  intro saves
  have hgenuine : ∀ save ∈ saves, save.1.IsGenuine := by
    intro save hsave
    simp only [saves, List.mem_cons, List.not_mem_nil, or_false] at hsave
    obtain rfl | rfl := hsave
    · exact bare_isGenuine "1"
    · exact bare_isGenuine "2"
  have hsaves : Saves ⟨"b"⟩ (Disk.empty []) saves bareSaved :=
    .save (.save .start runs_save_b_ok) runs_save_b_busy
  have hreached : IsReached ⟨"b"⟩ bareSaved := ⟨bareSaved.start ⟨"b"⟩, by decide +kernel⟩
  obtain ⟨hone, hmany, hsteady⟩ := saves_are_atomic ⟨"b"⟩
  exact ⟨hgenuine, hsaves, hone _ _ _ _ (bare_isGenuine "2") runs_save_b_busy,
    (hmany _ _ _ hgenuine hsaves).1 _ rfl, hsteady _ (.inl hreached)⟩

end Bare

/-- Nothing is at a path that goes through a missing directory, but once the directory has been
created the path may lead to it. Saving then fails, and what could be loaded before can no more be
loaded. -/
theorem load_through_missing_directory :
    let path : Path := ⟨"d/../d"⟩
    let world : World := ⟨Disk.empty [], ⟨0, 0⟩, 0, false⟩
    let saved := World.run (save path (bare "1")) world
    world.disk.readFile path = .error .notFound ∧
      (World.run (load path) world).1 = .ok none ∧
      saved.1 = .error (.io .isDirectory) ∧
      (World.run (load path) saved.2).1 = .error (.io .isDirectory) := by
  decide +kernel

end Snapshot

end SchemaCodegen
