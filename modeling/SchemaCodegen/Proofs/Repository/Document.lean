import SchemaCodegen.Proofs.Output.Replacement
import SchemaCodegen.Repository.File

/-!
# The file of a repository

A repository in a file reads its document without touching the disk, and a change that succeeds
changes no file but that of the document (`File.of_changeDocument_ok`): the temporary file took
a name that nothing had, and has left it for the document's. That the machine gives out identities
whose temporary files do not exist is all that is asked of it; anything may fail (`careful`).
-/

namespace SchemaCodegen

namespace Disk

variable {paths : Path → Prop} {d d' d'' : Disk} {path temporary : Path} {content : ByteArray}

/-- Files are the same but for those at the given paths; there may be new directories. -/
structure SameFiles (paths : Path → Prop) (d d' : Disk) : Prop where
  toExtends : Extends d d'
  file_iff : ∀ {x content}, (∀ p, paths p → ¬ d'.Names p x) →
    (d'.entry? x = some (.file content) ↔ d.entry? x = some (.file content))

namespace SameFiles

theorem refl (paths : Path → Prop) (d : Disk) : SameFiles paths d d :=
  ⟨⟨rfl, fun _ hx => hx⟩, fun _ => Iff.rfl⟩

theorem of_eq (h : d' = d) : SameFiles paths d d' :=
  h ▸ refl paths d

theorem trans (h : SameFiles paths d d') (h' : SameFiles paths d' d'') :
    SameFiles paths d d'' := by
  refine ⟨⟨h'.toExtends.workingDirectory.trans h.toExtends.workingDirectory, fun x hx =>
    h'.toExtends.directory x (h.toExtends.directory x hx)⟩, fun hx => ?_⟩
  rw [h'.file_iff hx]
  exact h.file_iff fun p hp hnames => hx p hp (hnames.mono h'.toExtends)

theorem mono {paths' : Path → Prop} (h : SameFiles paths d d') (hpaths : ∀ p, paths p → paths' p) :
    SameFiles paths' d d' :=
  ⟨h.toExtends, fun hx => h.file_iff fun p hp => hx p (hpaths p hp)⟩

theorem of_grown {created : Path → Prop} (h : Grown created d d') : SameFiles paths d d' :=
  ⟨h.toExtends, fun _ => h.file_iff⟩

/-- A file that is written where nothing was, and then moved, changes that of its target only. -/
theorem of_rename (hunused : d.Unused temporary) (hwrite : d.writeFile temporary content = .ok d')
    (hrename : d'.rename temporary path = .ok d'') :
    SameFiles (· = path) d d'' ∧ d''.readFile path = .ok content := by
  have hleaves : Output.Leaves (· = temporary) d d' :=
    (Output.Leaves.refl _ d).write hunused rfl hwrite
  obtain ⟨t, ht, hfree, hthere, haway⟩ := Output.of_write_unused hunused hwrite
  obtain ⟨x, hx, hextends, hentry⟩ := Output.of_rename_temporary hleaves ht hthere hrename
  refine ⟨⟨hextends, fun {z bytes} hz => ?_⟩,
    readFile_iff.2 ⟨x, hx.mono hextends, by rw [hentry, if_pos rfl]⟩⟩
  have hzx : z ≠ x := by
    rintro rfl
    exact hz path rfl (hx.mono hextends)
  rw [hentry, if_neg hzx]
  split
  · next hzt => rw [hzt, hfree]
  · next hzt => rw [haway z hzt]

end SameFiles

end Disk

namespace Repository.File

open Disk (SameFiles)

/-- A machine on which anything may fail, and whose new identities belong to no temporary file. -/
def careful (path : Path) : machine.Step Disk
  | .freshId, d, id, d' => d.Unused (temporaryPath path id) ∧ d' = d
  | call, d, reply, d' => Output.faulty path true call d reply d'

variable {path : Path} {d d' : Disk}

theorem runs_write_ok {p : Path} {content : ByteArray} :
    Procedure.Runs (careful path) (Job.write p content) d (.ok ()) d' ↔
      d.writeFile p content = .ok d' :=
  Job.runs_ofDisk_ok.trans Script.runs_call

theorem runs_rename_ok {source target : Path} :
    Procedure.Runs (careful path) (Job.rename source target) d (.ok ()) d' ↔
      d.rename source target = .ok d' :=
  Job.runs_ofDisk_ok.trans Script.runs_call

-- What the parent is does not matter here, and unfolding it takes long.
attribute [local irreducible] Path.realParent?

theorem asks_readDocument (path : Path) :
    (readDocument path).Asks (· = Machine.Call.read path) := by
  refine .bind (.ofScript (.bind (.call rfl) fun bytes => ?_)) fun text => ?_
  · cases bytes with
    | error fault => exact .pure _
    | ok bytes =>
      dsimp only
      split <;> exact .pure _
  · cases text with
    | error fault => cases fault <;> trivial
    | ok text => trivial

theorem of_readDocument {outcome : Outcome MetadataDocument}
    (h : Procedure.Runs (careful path) (readDocument path) d outcome d') : d' = d := by
  refine (asks_readDocument path).keeps (P := fun d d' => d' = d) (fun _ => rfl)
    (fun h h' => h'.trans h) ?_ h
  rintro call d reply d' rfl ⟨-, hsame⟩
  exact hsame

/-- The directory of the document is there first. -/
theorem of_writeDocument {document : MetadataDocument}
    (h : Procedure.Runs (careful path) (writeDocument path document) d (.ok ()) d') :
    ∃ between, SameFiles (· = path) d between ∧
      Procedure.Runs (careful path) (do
        let temporary := temporaryPath path (← Job.freshId)
        Job.write temporary document.toText.toUTF8
        Job.orElseRun (Job.rename temporary path) (Job.discard temporary)) between (.ok ()) d' := by
  unfold writeDocument at h
  cases hparent : path.realParent? with
  | none =>
    rw [hparent] at h
    exact ⟨d, .refl _ d, h⟩
  | some parent =>
    rw [hparent] at h
    obtain ⟨_, between, hparents, hrest⟩ := Procedure.runs_bind_ok.1 h
    have hcreated : d.createDirectories parent = (.ok (), between) :=
      Script.runs_call.1 (Job.runs_ofDisk_ok.1 hparents)
    exact ⟨between, .of_grown (Disk.Makes.of_createDirectories hcreated).grown, hrest⟩

/-- A document that was written is in its file, and all other files are as they were. -/
theorem of_writeDocument_ok {document : MetadataDocument}
    (h : Procedure.Runs (careful path) (writeDocument path document) d (.ok ()) d') :
    SameFiles (· = path) d d' ∧ d'.readFile path = .ok document.toText.toUTF8 := by
  obtain ⟨between, hgrown, hrest⟩ := of_writeDocument h
  obtain ⟨id, t, hid, hreplace⟩ := Procedure.runs_bind_ok.1 hrest
  have hfresh := Script.runs_call.1 (Procedure.runs_ofScript_ok.1 hid)
  obtain ⟨hunused, rfl⟩ := hfresh
  obtain ⟨_, stored, hwrite, hrename⟩ := Procedure.runs_bind_ok.1 hreplace
  obtain ⟨hmoved, hread⟩ := SameFiles.of_rename hunused (runs_write_ok.1 hwrite)
    (runs_rename_ok.1 (Job.runs_orElseRun_ok.1 hrename))
  exact ⟨hgrown.trans hmoved, hread⟩

theorem of_changeDocument_ok {change : MetadataDocument → Outcome MetadataDocument}
    (h : Procedure.Runs (careful path) (changeDocument path change) d (.ok ()) d') :
    SameFiles (· = path) d d' := by
  unfold changeDocument at h
  obtain ⟨document, t, hread, hrest⟩ := Procedure.runs_bind_ok.1 h
  obtain rfl := of_readDocument hread
  obtain ⟨changed, t', hchange, hwrite⟩ := Procedure.runs_bind_ok.1 hrest
  obtain ⟨-, rfl⟩ := Procedure.runs_ofOutcome.1 hchange
  exact (of_writeDocument_ok hwrite).1

theorem of_answer_load {outcome : Outcome Metadata}
    (h : Script.Runs (careful path) (answer path .load) d outcome d') : d' = d := by
  rcases Procedure.runs_bind.1 h with ⟨failure, -, hread⟩ | ⟨document, t, hread, hdone⟩
  · exact of_readDocument hread
  · obtain ⟨-, rfl⟩ := Procedure.runs_pure.1 hdone
    exact of_readDocument hread

end Repository.File

end SchemaCodegen
