import SchemaCodegen.Proofs.Disk.Neighbours
import SchemaCodegen.Proofs.Repository.Holding
import SchemaCodegen.Settings.Basic
import SchemaCodegen.Snapshot.Store

/-!
# The metadata file beside a snapshot

Where no other path is set, metadata is kept in a file of one fixed name in the directory of the
snapshot. Both are one file if the snapshot has that name, and only then
(`Settings.components_metadataPathFor_eq_iff`). Where its name is not that of a temporary file for
the metadata either (`Settings.KeepsApart`), neither store touches the file of the other, whatever
fails meanwhile: all that a store asks the machine for spares the other file (`Machine.Spares`), and
so the file is retained (`KeepsApart.retains_of_save`, `KeepsApart.retains_of_answer`).
-/

namespace SchemaCodegen

open Disk (Retains)

/-! ## Questions that leave a path alone -/

namespace Machine

variable {path q : Path} {removes : Bool} {d d' : Disk} {call : Call} {reply : Reply call}

/-- What is asked for creates directories above the path, and changes files beside it only. -/
def Spares (path : Path) : Call → Prop
  | .createDirectories q => ∀ r, r = q ∨ q.Above r → path.Above r
  | .write q _ => path.Beside q
  | .copy _ q => path.Beside q
  | .rename q r => path.Beside q ∧ path.Beside r
  | .remove q => path.Beside q
  | _ => True

theorem retains_of_partlyWritten (hbeside : path.Beside q) (h : Disk.PartlyWritten q d d') :
    Retains path d d' := by
  rcases h with rfl | ⟨part, hwrite⟩
  · exact .refl path d'
  · exact .of_writeFile hbeside hwrite

theorem retains_of_faulty {r : Path} (hcall : Spares path call)
    (h : Output.faulty r removes call d reply d') : Retains path d d' := by
  have hsame : d' = d → Retains path d d' := by
    rintro rfl
    exact .refl path d'
  cases call with
  | read p => exact hsame h.2
  | probe p => exact hsame h.2
  | list p => exact hsame h.2
  | freshId => exact hsame h.2
  | workingDirectory => exact hsame h
  | clock => exact hsame h
  | freshIds keys => exact hsame h
  | isCancelled => exact hsame h
  | createDirectories q =>
    refine .of_makes (Disk.Makes.mono ?_ hcall)
    cases reply with
    | ok _ =>
      have hcreated : d.createDirectories q = (.ok (), d') := h
      exact .of_createDirectories hcreated
    | error fault => exact h
  | write q content =>
    cases reply with
    | ok _ => exact .of_writeFile hcall h
    | error fault => exact retains_of_partlyWritten hcall h
  | copy p q =>
    cases reply with
    | ok _ =>
      obtain ⟨content, -, hwrite⟩ := Disk.copyFile_iff.1 h
      exact .of_writeFile hcall hwrite
    | error fault => exact retains_of_partlyWritten hcall h
  | rename q r =>
    cases reply with
    | ok _ => exact .of_rename hcall.1 hcall.2 h
    | error fault => exact hsame h
  | remove q =>
    cases reply with
    | ok _ => exact .of_removeFile hcall h
    | error fault => exact hsame h.1

theorem retains_of_watched {r : Path} {s s' : Disk × Bool} (hcall : Spares path call)
    (h : Repository.File.watched r call s reply s') : Retains path s.1 s'.1 := by
  obtain ⟨hunsteady, -⟩ := h
  by_cases hfresh : call = .freshId
  · subst hfresh
    obtain ⟨-, hsame⟩ := hunsteady
    rw [hsame]
    exact .refl path s.1
  · have hfaulty : Output.faulty r false call s.1 reply s'.1 := by
      cases call <;> first | exact absurd rfl hfresh | exact hunsteady
    exact retains_of_faulty hcall hfaulty

end Machine

open Machine (Spares)

/-- The directories above the second path are above the first one too, and its file is beside. -/
structure Path.Neighbours (p q : Path) : Prop where
  above : ∀ r, q.Above r → p.Above r
  beside : p.Beside q

theorem Path.Neighbours.spares {p q parent : Path} (h : p.Neighbours q)
    (hparent : q.realParent? = some parent) : Spares p (.createDirectories parent) :=
  fun r hr => h.above r (Path.above_of_realParent? hparent hr)

/-! ## Where the metadata file is -/

namespace Settings

variable {p : Path}

theorem isFileName_metadataFileName : Path.IsFileName metadataFileName := by decide

theorem metadataPathFor_of_parent? {dir : Path} (h : p.parent? = some dir) :
    (metadataPathFor p).components = dir.components ++ [.name metadataFileName] ∧
      (metadataPathFor p).parent? = some dir := by
  have hpath : metadataPathFor p = dir.join metadataFileName := by
    unfold metadataPathFor
    rw [h]
  rw [hpath]
  exact ⟨Path.components_join dir isFileName_metadataFileName,
    Path.parent?_join h isFileName_metadataFileName⟩

theorem metadataPathFor_of_parent?_eq_none (h : p.parent? = none) :
    metadataPathFor p = ⟨metadataFileName⟩ := by
  unfold metadataPathFor
  rw [h]

theorem fileName?_metadataPathFor (p : Path) :
    (metadataPathFor p).fileName? = some metadataFileName := by
  rw [Path.fileName?_eq_some_iff_getLast?]
  cases hparent : p.parent? with
  | none =>
    rw [metadataPathFor_of_parent?_eq_none hparent,
      Path.components_of_isFileName isFileName_metadataFileName]
    rfl
  | some dir => rw [(metadataPathFor_of_parent? hparent).1, List.getLast?_concat]

/-- The metadata file is the snapshot if that has its name, and only then. -/
theorem components_metadataPathFor_eq_iff : (metadataPathFor p).components = p.components ↔
    p.fileName? = some metadataFileName := by
  rw [Path.fileName?_eq_some_iff_getLast?]
  cases hparent : p.parent? with
  | none =>
    have hsteps := Path.steps_of_parent?_eq_none hparent
    have hopening : p.components = p.opening := by
      rw [Path.components_eq, hsteps, List.map_nil, List.append_nil]
    rw [metadataPathFor_of_parent?_eq_none hparent,
      Path.components_of_isFileName isFileName_metadataFileName, hopening, Path.opening]
    split
    · simp
    · split <;> simp
  | some dir =>
    obtain ⟨last, hlast⟩ := Path.components_of_parent? hparent
    rw [(metadataPathFor_of_parent? hparent).1, hlast, List.getLast?_concat]
    simp [eq_comm]

/-- Where the snapshot has a last step, the metadata file differs in that step only. -/
theorem siblings_metadataPathFor (h : p.steps ≠ []) :
    ∃ before last, p.Siblings (metadataPathFor p) before last metadataFileName := by
  cases hparent : p.parent? with
  | none => exact absurd (Path.steps_of_parent?_eq_none hparent) h
  | some dir =>
    obtain ⟨component, hcomponents⟩ := Path.components_of_parent? hparent
    obtain ⟨front, last, hsteps⟩ := (List.eq_nil_or_concat p.steps).resolve_left h
    have hlast : component = .ofSegment last := by
      rw [Path.components_eq, hsteps, List.concat_eq_append, List.map_append, List.map_singleton,
        ← List.append_assoc] at hcomponents
      exact (List.cons.inj (List.append_inj' hcomponents rfl).2).1.symm
    refine ⟨_, last, Path.siblings_of_components hcomponents
      (metadataPathFor_of_parent? hparent).1 ?_ rfl⟩
    rw [hlast, Path.Component.step?_ofSegment]

theorem siblings_of_fileName? {name : String} (h : p.fileName? = some name) :
    ∃ before, p.Siblings (metadataPathFor p) before name metadataFileName := by
  have hlast := (Path.fileName?_eq_some_iff.1 h).1
  have hp : p.steps ≠ [] := by
    intro hnone
    rw [Path.fileName?_of_steps_nil hnone] at h
    cases h
  obtain ⟨before, last, hsiblings⟩ := siblings_metadataPathFor hp
  rw [hsiblings.steps, List.getLast?_concat, Option.some.injEq] at hlast
  exact ⟨before, hlast ▸ hsiblings⟩

/-- Wherever both paths lead, they lead to one place exactly if both have one name. -/
theorem eq_iff_of_names {d : Disk} {x y : Disk.Location} (hx : d.Names p x)
    (hy : d.Names (metadataPathFor p) y) : x = y ↔ p.fileName? = some metadataFileName := by
  obtain ⟨directory, name, hname, -⟩ := Disk.fileName?_of_names hx
  obtain ⟨before, hsiblings⟩ := siblings_of_fileName? hname
  rw [hx.eq_iff_of_siblings hy hsiblings, hname, Option.some.injEq]

/-! ## Temporary files -/

/-- The name of a file that new metadata is first written to. -/
def temporaryMetadataName (id : Uuid) : String :=
  "metadata" ++ "." ++ (id.simple ++ ".tmp")

/-- The snapshot has another name than the metadata file and than the temporary files for it. -/
structure KeepsApart (p : Path) : Prop where
  metadata : p.fileName? ≠ some metadataFileName
  temporary : ∀ id, p.fileName? ≠ some (temporaryMetadataName id)

theorem siblings_temporaryPath (p : Path) (id : Uuid) : ∃ before,
    (metadataPathFor p).Siblings (Repository.File.temporaryPath (metadataPathFor p) id) before
      metadataFileName (temporaryMetadataName id) := by
  obtain ⟨-, before, hsiblings⟩ :=
    Repository.File.siblings_of_fileName? (fileName?_metadataPathFor p) id
  have hstem : (Path.splitExtension metadataFileName).1 = "metadata" := by decide
  rw [hstem] at hsiblings
  exact ⟨before, hsiblings⟩

/-- The temporary file of a snapshot is never the metadata file. -/
theorem beside_temporaryPath (p : Path) :
    (metadataPathFor p).Beside (Snapshot.temporaryPath p) := by
  cases hname : p.fileName? with
  | none =>
    have hsame : Snapshot.temporaryPath p = p := by
      unfold Snapshot.temporaryPath Path.withExtension
      simp only [hname]
    intro name' hname'
    rw [hsame, hname] at hname'
    cases hname'
  | some name =>
    obtain ⟨before, hsiblings⟩ := siblings_of_fileName? hname
    have hsegment : Path.IsSegment "json.tmp" := by decide
    obtain ⟨-, before', htemporary⟩ := Path.siblings_withExtension hname hsegment (by decide)
    refine (hsiblings.symm.trans htemporary).beside ?_
    rw [fileName?_metadataPathFor]
    intro hsame
    -- One of the names ends in `n`, the other in `p`.
    have hend := congrArg (fun name? => name?.map fun name => name.toList.getLast?) hsame
    simp [metadataFileName] at hend

namespace KeepsApart

variable (apart : KeepsApart p)

include apart

theorem neighbours (hp : p.steps ≠ []) : p.Neighbours (metadataPathFor p) := by
  obtain ⟨before, last, hsiblings⟩ := siblings_metadataPathFor hp
  refine ⟨fun r hr => ?_, hsiblings.beside apart.metadata⟩
  cases hparent : p.parent? with
  | none => exact absurd (Path.steps_of_parent?_eq_none hparent) hp
  | some dir =>
    exact hr.of_parent?_eq (hparent.trans (metadataPathFor_of_parent? hparent).2.symm)

theorem neighbours_metadataPathFor : (metadataPathFor p).Neighbours p := by
  constructor
  · intro r hr
    obtain ⟨dir, hparent⟩ : ∃ dir, p.parent? = some dir := by
      induction hr with
      | parent h => exact ⟨_, h⟩
      | up _ _ ih => exact ih
    exact hr.of_parent?_eq ((metadataPathFor_of_parent? hparent).2.trans hparent.symm)
  · intro name hname
    obtain ⟨before, hsiblings⟩ := siblings_of_fileName? hname
    refine hsiblings.symm.beside ?_ name hname
    rw [fileName?_metadataPathFor, ← hname]
    exact apart.metadata.symm

theorem beside_temporaryPath (hp : p.steps ≠ []) (id : Uuid) :
    p.Beside (Repository.File.temporaryPath (metadataPathFor p) id) := by
  obtain ⟨before, last, hsiblings⟩ := siblings_metadataPathFor hp
  obtain ⟨before', htemporary⟩ := siblings_temporaryPath p id
  exact (hsiblings.trans htemporary).beside (apart.temporary id)

end KeepsApart

end Settings

-- What these paths are does not matter from here on, and unfolding them takes long.
attribute [local irreducible] Repository.File.temporaryPath Snapshot.temporaryPath
  Path.realParent? Settings.metadataPathFor

/-! ## What the stores ask for -/

theorem Snapshot.asks_save {path q : Path} (h : q.Neighbours path)
    (htemporary : q.Beside (temporaryPath path)) (s : Snapshot) :
    (save path s).Asks (Spares q) := by
  have hrest : (do
      Job.write (temporaryPath path) s.toText.toUTF8
      Job.rename (temporaryPath path) path : Job Unit).Asks (Spares q) :=
    .bind (Job.asks_ofDisk (.call htemporary)) fun _ =>
      Job.asks_ofDisk (.call ⟨htemporary, h.beside⟩)
  unfold save
  cases hparent : path.realParent? with
  | none => exact hrest
  | some parent => exact .bind (Job.asks_ofDisk (.call (h.spares hparent))) fun _ => hrest

namespace Repository.File

variable {path q : Path} (h : q.Neighbours path)
  (htemporary : ∀ id, q.Beside (temporaryPath path id))

include h htemporary

theorem asks_writeDocument (document : MetadataDocument) :
    (writeDocument path document).Asks (Spares q) := by
  have hrest : (do
      let temporary := temporaryPath path (← Job.freshId)
      Job.write temporary document.toText.toUTF8
      Job.orElseRun (Job.rename temporary path) (Job.discard temporary) : Job Unit).Asks
        (Spares q) := by
    refine .bind (.ofScript (.call trivial)) fun id => ?_
    refine .bind (Job.asks_ofDisk (.call (htemporary id))) fun _ => ?_
    exact Job.asks_orElseRun (Job.asks_ofDisk (.call ⟨htemporary id, h.beside⟩))
      (.bind (.call (htemporary id)) fun _ => .pure _)
  unfold writeDocument
  cases hparent : path.realParent? with
  | none => exact hrest
  | some parent => exact .bind (Job.asks_ofDisk (.call (h.spares hparent))) fun _ => hrest

theorem asks_answer (call : Call) : (answer path call).Asks (Spares q) := by
  have hread : (readDocument path).Asks (Spares q) :=
    (asks_readDocument path).mono fun _ hcall => by
      rw [hcall]
      trivial
  have hchange : ∀ change, (changeDocument path change).Asks (Spares q) := by
    intro change
    exact .bind hread fun document => .bind (p := Procedure.ofOutcome _) trivial
      fun changed => asks_writeDocument h htemporary changed
  cases call with
  | load => exact Procedure.Asks.bind hread fun _ => .pure _
  | history table => exact Procedure.Asks.bind hread fun _ => .pure _
  | persist metadata => exact hchange _
  | markGenerated keys time => exact hchange _
  | recordHistory records => exact hchange _

end Repository.File

namespace Settings.KeepsApart

variable {p : Path} {d d' : Disk} (apart : KeepsApart p)

include apart

/-- A call of the repository leaves the snapshot alone, whatever fails. -/
theorem retains_of_answer {b b' : Bool} {call : Repository.Call} {reply : Repository.Reply call}
    (hruns : Script.Runs (Repository.File.watched (metadataPathFor p))
      (Repository.File.answer (metadataPathFor p) call) (d, b) reply (d', b')) :
    Retains p d d' := by
  by_cases hp : p.steps = []
  · exact .of_steps_nil hp d d'
  have hasks := Repository.File.asks_answer (apart.neighbours hp) (apart.beside_temporaryPath hp)
    call
  refine hasks.keeps (P := fun s s' => Retains p s.1 s'.1) (fun s => .refl p s.1) ?_ ?_ hruns
  · intro s t u h h'
    exact h.trans h'
  · intro call s reply s' hcall hstep
    exact Machine.retains_of_watched hcall hstep

/-- Saving a snapshot leaves the metadata file alone, whatever fails. -/
theorem retains_of_save {s : Snapshot} {outcome : Outcome Unit}
    (hruns : Procedure.Runs (Output.faulty p true) (s.save p) d outcome d') :
    Retains (metadataPathFor p) d d' := by
  have hasks := Snapshot.asks_save apart.neighbours_metadataPathFor
    (Settings.beside_temporaryPath p) s
  refine hasks.keeps (fun d => .refl _ d) ?_ ?_ hruns
  · intro d d' d'' h h'
    exact h.trans h'
  · intro call d reply d' hcall hstep
    exact Machine.retains_of_faulty hcall hstep

end Settings.KeepsApart

end SchemaCodegen
