import SchemaCodegen.Proofs.Repository.Sessions
import SchemaCodegen.Proofs.Settings.MetadataFile
import SchemaCodegen.Proofs.Snapshot.Saving

/-!
# The snapshot and the metadata on one disk

The settings that leave the metadata path open put the metadata file beside the snapshot. As long as
the name of the snapshot keeps both apart, saves, loads and calls of the repository in any order are
answered as by two stores in memory (`Session.isAnsweredFrom`). A snapshot with the name of the
metadata file shares that file, and nothing says so: as document it reads empty
(`MetadataDocument.ofText_snapshot`), so whatever the repository held is forgotten with the next
save.
-/

namespace SchemaCodegen

open Disk (Retains)

-- What these paths are does not matter here, and unfolding them takes long.
attribute [local irreducible] Repository.File.temporaryPath Snapshot.temporaryPath
  Path.realParent? Settings.metadataPathFor

/-! ## What both files hold -/

namespace Snapshot

open Repository.File (of_readText runs_tryReadText_missing runs_tryReadText_ok watched)

variable {path : Path} {d d' : Disk} {s : Snapshot} {loaded : Outcome (Option Snapshot)}

/-- What is loaded after the snapshot was saved. -/
def readBack (s : Snapshot) : Outcome (Option Snapshot) :=
  some <$> ofText s.toText

theorem IsGenuine.readBack_eq (hs : s.IsGenuine) : s.readBack = .ok (some s) := by
  rw [readBack, hs.ofText_toText_eq]
  rfl

/-- What can be loaded from the file: what its text is read as, or nothing if it is missing. -/
inductive Keeps (path : Path) (d : Disk) : Outcome (Option Snapshot) → Prop where
  | saved {text : String} (h : d.readFile path = .ok text.toUTF8) :
    Keeps path d (some <$> ofText text)
  | missing (h : d.Lacks path) : Keeps path d (.ok none)

theorem Keeps.of_retains (h : Keeps path d loaded) (hretains : Retains path d d') :
    Keeps path d' loaded := by
  cases h with
  | saved h => exact .saved (hretains.read h)
  | missing h => exact .missing (hretains.lacks h)

/-- A snapshot that was saved is kept, and one that could not be saved changes nothing. -/
theorem Keeps.of_save {outcome : Outcome Unit} (h : Keeps path d loaded)
    (hruns : Procedure.Runs (Output.faulty path true) (save path s) d outcome d') :
    Keeps path d' (if outcome = .ok () then s.readBack else loaded) := by
  cases outcome with
  | ok _ =>
    rw [if_pos rfl]
    exact .saved (of_save_ok hruns).1
  | error failure =>
    rw [if_neg nofun]
    obtain ⟨-, between, hmakes, hread, hreached⟩ := of_save_error hruns
    have hbetween := h.of_retains (.of_makes hmakes)
    rcases hreached with rfl | hreached
    · exact hbetween
    · -- The directory of the path is there, so no other is created later.
      refine hbetween.of_retains ⟨fun hok => hread.trans hok, fun hlacks d'' hmore => ?_⟩
      rw [hmore.eq_of_walked hreached, hread, hlacks.readFile]

theorem runs_load_text {σ : Type} {step : machine.Step σ} {t t' : σ} {text : String}
    {outcome : Outcome (Option Snapshot)} :
    Procedure.Runs step (some <$> Procedure.ofOutcome (ofText text)) t outcome t' ↔
      outcome = some <$> ofText text ∧ t' = t := by
  generalize ofText text = parsed
  cases parsed <;> exact and_congr eq_comm eq_comm

/-- What is kept is loaded, or reading failed. -/
theorem Keeps.of_load {outcome : Outcome (Option Snapshot)} {failed : Bool}
    (h : Keeps path d loaded)
    (hruns : Procedure.Runs (watched path) (load path) (d, false) outcome (d', failed)) :
    d' = d ∧ (failed = false ∧ outcome = loaded ∨
      failed = true ∧ ∃ failure, outcome = .error failure) := by
  rcases Procedure.runs_bind.1 hruns with ⟨failure, -, hnever⟩ | ⟨text, ⟨t, b⟩, htry, hrest⟩
  · exact absurd hnever Procedure.not_runs_ofScript_error
  obtain ⟨rfl, hread⟩ := of_readText (Procedure.runs_ofScript_ok.1 htry)
  rcases hread with ⟨bytes, hbytes, rfl, rfl⟩ | ⟨hmissing, rfl, rfl⟩ | ⟨rfl, fault, hfault, rfl⟩
  · cases h with
    | missing h =>
      rw [h.readFile] at hbytes
      cases hbytes
    | saved h =>
      rw [h] at hbytes
      cases hbytes
      rw [Job.textOf_eq_ok_iff.2 rfl] at hrest
      obtain ⟨rfl, hstate⟩ := runs_load_text.1 hrest
      cases hstate
      exact ⟨rfl, .inl ⟨rfl, rfl⟩⟩
  · obtain ⟨rfl, heq⟩ := Procedure.runs_pure.1 hrest
    cases heq
    cases h with
    | missing h => exact ⟨rfl, .inl ⟨rfl, rfl⟩⟩
    | saved h =>
      rw [h] at hmissing
      cases hmissing
  · have hthrow : Procedure.Runs (watched path) (throw (.io fault) : Job (Option Snapshot))
        (t, true) outcome (d', failed) := by
      cases fault <;> first | exact absurd rfl hfault | exact hrest
    obtain ⟨rfl, heq⟩ := Procedure.runs_throw.1 hthrow
    cases heq
    exact ⟨rfl, .inr ⟨rfl, _, rfl⟩⟩

/-- What is kept can be loaded. -/
theorem Keeps.runs_load (h : Keeps path d loaded) :
    Procedure.Runs (watched path) (load path) (d, false) loaded (d, false) := by
  cases h with
  | missing h =>
    have hread := Procedure.runs_ofScript_ok.2 (runs_tryReadText_missing h.readFile)
    exact Procedure.runs_bind_ok.2 ⟨_, (d, false), hread, rfl, rfl⟩
  | saved h =>
    have hread := Procedure.runs_ofScript_ok.2 (runs_tryReadText_ok h)
    exact Procedure.runs_bind.2 (.inr ⟨_, (d, false), hread, runs_load_text.2 ⟨rfl, rfl⟩⟩)

end Snapshot

namespace Repository.File

variable {path : Path} {d d' : Disk} {m : MetadataDocument}

theorem Holds.of_retains (h : Holds path d m) (hretains : Retains path d d') :
    Holds path d' m := by
  cases h with
  | written h htext => exact .written (hretains.read h) htext
  | missing h => exact .missing (hretains.lacks h)

end Repository.File

/-! ## A snapshot in place of the metadata -/

namespace MetadataDocument

/-- Members of other names are skipped, so an object that has no others is the empty document. -/
theorem decode_of_foreign {members : List (String × Json)}
    (hforeign : Json.Foreign ["state", "history"] members)
    (hsound : ∀ m ∈ members, m.2.skipFault = none) : decode (.object members) = .ok .empty := by
  change decode (.object ([] ++ members)) = .ok .empty
  refine Json.Record.Reads.decode_of_foreign ?_ (by decide) hforeign hsound
  exact .seq .withDefault_absent (.map MetadataDocument.mk .withDefault_absent)

/-- A snapshot read as a document is the empty one. -/
theorem ofText_snapshot (s : Snapshot) : ofText s.toText = .ok .empty := by
  have hread : Json.read s.toText = ⟨s.toJson, false⟩ := Json.read_pretty s.writable
  have hnames : ∀ name ∈ ["databaseName", "serverName", "version", "analyzedAt", "tables",
      "relationships"], name ∉ ["state", "history"] := by decide
  have hdecoded : decode s.toJson = .ok .empty :=
    decode_of_foreign (fun m hm => hnames m.1 (List.mem_map_of_mem (f := Prod.fst) hm))
      fun m hm => Json.skipFault_of_writable m.2 (Json.writableMembers_iff.1 s.writable m hm)
  have htext : Json.decodeText decode s.toText = .ok .empty := by
    rw [Json.decodeText, hread]
    dsimp only
    rw [hdecoded]
    rfl
  rw [ofText, htext]
  rfl

end MetadataDocument

namespace Settings

variable {p : Path} {d d' : Disk}

/-- A snapshot that was saved in the place of the metadata leaves an empty document there. -/
theorem holds_empty_of_save {s : Snapshot} {y : Disk.Location}
    (hname : p.fileName? = some metadataFileName)
    (hsave : Procedure.Runs (Output.faulty p true) (s.save p) d (.ok ()) d')
    (hy : d'.Names (metadataPathFor p) y) :
    Repository.File.Holds (metadataPathFor p) d' .empty := by
  obtain ⟨x, hx, hentry⟩ := Disk.readFile_iff.1 (Snapshot.of_save_ok hsave).1
  obtain rfl := (eq_iff_of_names hx hy).2 hname
  exact .written (Disk.readFile_iff.2 ⟨x, hy, hentry⟩) (MetadataDocument.ofText_snapshot s)

theorem metadataPath_eq {value? : String → Option String} {settings : Settings}
    (accepted : ofVariables value? = .ok settings) (unset : value? "METADATA_PATH" = none) :
    settings.metadataPath = metadataPathFor settings.snapshotPath := by
  obtain ⟨connections, -, accepted⟩ := Disk.exists_of_bind_eq_ok accepted
  obtain ⟨database, -, accepted⟩ := Disk.exists_of_bind_eq_ok accepted
  obtain ⟨backend, -, accepted⟩ := Disk.exists_of_bind_eq_ok accepted
  dsimp only at accepted
  split at accepted
  · cases accepted
  obtain ⟨artifacts, -, accepted⟩ := Disk.exists_of_bind_eq_ok accepted
  obtain ⟨unchanged, -, accepted⟩ := Disk.exists_of_bind_eq_ok accepted
  cases accepted
  simp only [unset, Option.map_none, Option.getD_none]

end Settings

/-! ## Both stores in one session -/

namespace Stores

open Repository.File (Visit watched)

variable {p : Path} {d d' d'' : Disk}

/-- What the two stores of a generator hold. -/
structure Contents where
  /-- What is loaded. -/
  snapshot : Outcome (Option Snapshot)
  metadata : MetadataDocument

/-- A save, a load or a call of the repository, with its answer; of the last two whether an
operation on the disk failed meanwhile. -/
inductive Event where
  | save (s : Snapshot) (outcome : Outcome Unit)
  | load (outcome : Outcome (Option Snapshot)) (failed : Bool)
  | visit (v : Visit)

namespace Event

/-- The times that the repository is given are such as a clock can show. -/
def IsTimely : Event → Prop
  | .save _ _ => True
  | .load _ _ => True
  | .visit v => v.call.IsTimely

/-- The answer is that of two stores in memory, or a failure if an operation failed. -/
def IsAnsweredFrom (c : Contents) : Event → Prop
  | .save _ _ => True
  | .load outcome failed => (failed = false → outcome = c.snapshot) ∧
      (failed = true → ∃ failure, outcome = .error failure)
  | .visit v => v.IsAnsweredFrom c.metadata

end Event

/-- Two stores in memory: each is changed by its own operations, those that succeed. -/
def Contents.after (c : Contents) : Event → Contents
  | .save s outcome => { c with snapshot := if outcome = .ok () then s.readBack else c.snapshot }
  | .load _ _ => c
  | .visit v => { c with metadata := Repository.File.remembered c.metadata [v] }

/-- One operation on one of the two stores, which have files on one disk. -/
inductive Step (p q : Path) (d : Disk) : Event → Disk → Prop where
  | save {s : Snapshot} {outcome : Outcome Unit} {d' : Disk}
      (run : Procedure.Runs (Output.faulty p true) (s.save p) d outcome d') :
      Step p q d (.save s outcome) d'
  | load {outcome : Outcome (Option Snapshot)} {failed : Bool} {d' : Disk}
      (run : Procedure.Runs (watched p) (Snapshot.load p) (d, false) outcome (d', failed)) :
      Step p q d (.load outcome failed) d'
  | visit {call : Repository.Call} {reply : Repository.Reply call} {failed : Bool} {d' : Disk}
      (run : Script.Runs (watched q) (Repository.File.answer q call) (d, false) reply
        (d', failed)) : Step p q d (.visit ⟨call, reply, failed⟩) d'

/-- Operations one after the other, in any order. -/
inductive Session (p q : Path) (d : Disk) : List Event → Disk → Prop where
  | start : Session p q d [] d
  | step {events : List Event} {between d' : Disk} {event : Event}
      (before : Session p q d events between) (next : Step p q between event d') :
      Session p q d (events ++ [event]) d'

/-- Both files hold what they should. -/
structure Contents.IsOn (c : Contents) (p q : Path) (d : Disk) : Prop where
  snapshot : Snapshot.Keeps p d c.snapshot
  metadata : Repository.File.Holds q d c.metadata

variable {c : Contents} {event : Event} {events : List Event}

open Settings (KeepsApart metadataFileName metadataPathFor)

/-- Each operation is answered from what its own file holds, and leaves the other one alone. -/
theorem Step.isAnsweredFrom (h : Step p (metadataPathFor p) d event d') (apart : KeepsApart p)
    (hc : c.IsOn p (metadataPathFor p) d) (timely : event.IsTimely) :
    event.IsAnsweredFrom c ∧ (c.after event).IsOn p (metadataPathFor p) d' := by
  cases h with
  | save run =>
    exact ⟨trivial, hc.snapshot.of_save run, hc.metadata.of_retains (apart.retains_of_save run)⟩
  | load run =>
    obtain ⟨rfl, ⟨rfl, houtcome⟩ | ⟨rfl, hfailure⟩⟩ := hc.snapshot.of_load run
    · exact ⟨⟨fun _ => houtcome, nofun⟩, hc⟩
    · exact ⟨⟨nofun, fun _ => hfailure⟩, hc⟩
  | visit run =>
    have hsnapshot := hc.snapshot.of_retains (apart.retains_of_answer run)
    rcases hc.metadata.of_answer timely run with ⟨rfl, hreply, hholds⟩ | ⟨rfl, hfailure, hholds⟩
    · exact ⟨⟨fun _ => hreply, nofun⟩, hsnapshot, hholds⟩
    · exact ⟨⟨nofun, fun _ => hfailure⟩, hsnapshot, hholds⟩

/-- In any order, operations are answered as by two stores in memory. -/
theorem Session.isAnsweredFrom (h : Session p (metadataPathFor p) d events d')
    (apart : KeepsApart p) (hc : c.IsOn p (metadataPathFor p) d)
    (timely : ∀ event ∈ events, event.IsTimely) :
    (events.foldl Contents.after c).IsOn p (metadataPathFor p) d' ∧
      ∀ before event after, events = before ++ event :: after →
        event.IsAnsweredFrom (before.foldl Contents.after c) := by
  induction h with
  | start =>
    refine ⟨hc, ?_⟩
    intro before event after h
    cases before <;> cases h
  | @step events between d' event _ next ih =>
    obtain ⟨hbetween, hearlier⟩ := ih fun e he => timely e (List.mem_append_left _ he)
    obtain ⟨hanswered, hholds⟩ := next.isAnsweredFrom apart hbetween
      (timely event (List.mem_append_right _ List.mem_cons_self))
    rw [List.foldl_append]
    exact ⟨hholds, Repository.File.forall_parts_concat hearlier hanswered⟩

/-- The metadata path that follows the snapshot is another path, and leads to another place, unless
the snapshot has the name of the metadata file. Where its name is not that of a temporary file for
the metadata either, operations in any order, whatever fails, are answered as by two stores in
memory, each from what was last put into it; a snapshot that can be accepted is read back as it is.
Where the name is that of the metadata file, each snapshot that is saved replaces the metadata by
the empty document. -/
theorem apart_unless_named_alike {value? : String → Option String} {settings : Settings}
    (accepted : Settings.ofVariables value? = .ok settings)
    (unset : value? "METADATA_PATH" = none) :
    (settings.metadataPath.components = settings.snapshotPath.components ↔
      settings.snapshotPath.fileName? = some metadataFileName) ∧
    (∀ (d : Disk) x y, d.Names settings.snapshotPath x → d.Names settings.metadataPath y →
      (x = y ↔ settings.snapshotPath.fileName? = some metadataFileName)) ∧
    (KeepsApart settings.snapshotPath → ∀ (c : Contents) (d d' : Disk) events,
      c.IsOn settings.snapshotPath settings.metadataPath d →
      Session settings.snapshotPath settings.metadataPath d events d' →
      (∀ event ∈ events, event.IsTimely) → ∀ before event after,
        events = before ++ event :: after →
          event.IsAnsweredFrom (before.foldl Contents.after c)) ∧
    (∀ s : Snapshot, s.IsGenuine → s.readBack = .ok (some s)) ∧
    (settings.snapshotPath.fileName? = some metadataFileName →
      ∀ (s : Snapshot) (d d' : Disk) y,
        Procedure.Runs (Output.faulty settings.snapshotPath true) (s.save settings.snapshotPath) d
          (.ok ()) d' →
        d'.Names settings.metadataPath y →
          Repository.File.Holds settings.metadataPath d' .empty) := by
  rw [Settings.metadataPath_eq accepted unset]
  refine ⟨Settings.components_metadataPathFor_eq_iff, fun d x y => Settings.eq_iff_of_names, ?_,
    fun s hs => hs.readBack_eq, ?_⟩
  · intro apart c d d' events hc session timely
    exact (session.isAnsweredFrom apart hc timely).2
  · intro hname s d d' y hsave hy
    exact Settings.holds_empty_of_save hname hsave hy

section Bare

open Repository.File (names_of_segments oneDocument oneDocument_isTimely oneRecord
  runs_writeDocument_ok)
open Snapshot (bare bareSaved bare_isGenuine)

/-- Only the path of the snapshot is set. -/
def withSnapshotPath (text name : String) : Option String :=
  if name = "SNAPSHOT_PATH" then some text else none

/-- What is set where nothing else is said, but for both paths. -/
def plainSettings (snapshotPath metadataPath : Path) : Settings where
  database := none
  templateRoot := ⟨"templates"⟩
  outputRoot := ⟨"generated"⟩
  snapshotPath := snapshotPath
  metadataBackend := .file
  metadataPath := metadataPath
  artifacts := [⟨"entity", ArtifactSpec.tablePlace ++ ".cs"⟩]
  includeUnchanged := false

/-- A snapshot is saved, a record is recorded, and both are read. -/
def bareEvents : List Event :=
  [.save (bare "1") (.ok ()),
    .visit ⟨.recordHistory [oneRecord], (.ok () : Outcome Unit), false⟩,
    .load (.ok (some (bare "1"))) false,
    .visit ⟨.history none, (.ok [oneRecord] : Outcome (List HistoryRecord)), false⟩]

def metadataTemporary : Path :=
  Repository.File.temporaryPath ⟨metadataFileName⟩ (Uuid.ofNumber 0)

/-- The disk after the record was recorded. -/
def bareRecorded : Disk :=
  ((bareSaved.insert [metadataTemporary.text] (.file oneDocument.toText.toUTF8)).erase
    [metadataTemporary.text]).insert [metadataFileName] (.file oneDocument.toText.toUTF8)

theorem metadataPathFor_b : metadataPathFor ⟨"b"⟩ = ⟨metadataFileName⟩ := by
  decide +kernel

theorem keepsApart_b : KeepsApart ⟨"b"⟩ := by
  have hname : Path.fileName? ⟨"b"⟩ = some "b" := by decide
  constructor
  · rw [hname]
    decide
  · intro id hsame
    rw [hname, Option.some.injEq] at hsame
    have hlength := congrArg String.length hsame
    have hname : "metadata".length = 8 := rfl
    have hone : "b".length = 1 := rfl
    rw [Settings.temporaryMetadataName] at hlength
    simp only [String.length_append] at hlength
    omega

theorem isOn_empty :
    Contents.IsOn ⟨.ok none, .empty⟩ ⟨"b"⟩ (metadataPathFor ⟨"b"⟩) (Disk.empty []) := by
  have hsnapshot : (Disk.empty []).Awaits ⟨"b"⟩ ["b"] :=
    ⟨by decide, [], "b", [], by decide, by decide, by decide, rfl, rfl, by decide⟩
  have hmetadata : (Disk.empty []).Awaits ⟨metadataFileName⟩ [metadataFileName] :=
    ⟨by decide, [], metadataFileName, [], by decide, by decide, by decide, rfl, rfl, by decide⟩
  rw [metadataPathFor_b]
  exact ⟨.missing hsnapshot.lacks, .missing hmetadata.lacks⟩

theorem runs_recordHistory_b (h : Repository.File.Holds (metadataPathFor ⟨"b"⟩) bareSaved .empty) :
    Script.Runs (watched (metadataPathFor ⟨"b"⟩))
      (Repository.File.answer (metadataPathFor ⟨"b"⟩) (.recordHistory [oneRecord]))
      (bareSaved, false) (.ok ()) (bareRecorded, false) := by
  rw [metadataPathFor_b] at h ⊢
  have htemporary : bareSaved.Names metadataTemporary [metadataTemporary.text] :=
    names_of_segments (by decide +kernel) (by decide +kernel) (by decide +kernel)
      (by decide +kernel) (by decide +kernel) (by decide +kernel) (if_neg (by decide +kernel))
  have hmetadata : bareSaved.Names ⟨metadataFileName⟩ [metadataFileName] :=
    names_of_segments (p := ⟨metadataFileName⟩) (by decide) (by decide) (by decide) (by decide)
      (by decide) (by decide) (if_neg (by decide))
  have hunused : bareSaved.Unused metadataTemporary :=
    fun x hx => Disk.eq_none_of_probe (by decide +kernel) hx
  exact h.runs_changeDocument rfl (runs_writeDocument_ok (by decide +kernel) hunused htemporary
    hmetadata (by decide +kernel) (by decide +kernel))

/-- Each step of the session can be taken, and what is on the disk allows the next one. -/
theorem session_b : Session ⟨"b"⟩ (metadataPathFor ⟨"b"⟩) (Disk.empty []) bareEvents
    bareRecorded := by
  have hsave : Step ⟨"b"⟩ (metadataPathFor ⟨"b"⟩) (Disk.empty []) _ bareSaved :=
    .save Snapshot.runs_save_b_ok
  obtain ⟨-, hsaved⟩ := hsave.isAnsweredFrom keepsApart_b isOn_empty trivial
  have hrecord : Step ⟨"b"⟩ (metadataPathFor ⟨"b"⟩) bareSaved _ bareRecorded :=
    .visit (runs_recordHistory_b hsaved.metadata)
  obtain ⟨-, hrecorded⟩ := hrecord.isAnsweredFrom keepsApart_b hsaved oneDocument_isTimely.history
  have hhistory : Script.Runs (watched (metadataPathFor ⟨"b"⟩))
      (Repository.File.answer (metadataPathFor ⟨"b"⟩) (.history none)) (bareRecorded, false)
      (.ok [oneRecord]) (bareRecorded, false) :=
    Procedure.runs_bind_ok.2 ⟨oneDocument, (bareRecorded, false),
      hrecorded.metadata.runs_readDocument, congrArg Except.ok (List.mergeSort_singleton oneRecord),
      rfl⟩
  have hkept : Snapshot.Keeps ⟨"b"⟩ bareRecorded (if (.ok () : Outcome Unit) = .ok ()
      then (bare "1").readBack else .ok none) := hrecorded.snapshot
  rw [if_pos rfl, (bare_isGenuine "1").readBack_eq] at hkept
  exact .step (.step (.step (.step .start hsave) hrecord) (.load hkept.runs_load)) (.visit hhistory)

theorem apart_unless_named_alike_b :
    Settings.ofVariables (withSnapshotPath "b") =
      .ok (plainSettings ⟨"b"⟩ ⟨metadataFileName⟩) ∧
    withSnapshotPath "b" "METADATA_PATH" = none ∧ KeepsApart ⟨"b"⟩ ∧
    Contents.IsOn ⟨.ok none, .empty⟩ ⟨"b"⟩ ⟨metadataFileName⟩ (Disk.empty []) ∧
    Session ⟨"b"⟩ ⟨metadataFileName⟩ (Disk.empty []) bareEvents bareRecorded ∧
    (∀ event ∈ bareEvents, event.IsTimely) ∧
    ∀ before event after, bareEvents = before ++ event :: after →
      event.IsAnsweredFrom (before.foldl Contents.after ⟨.ok none, .empty⟩) := by
  have haccepted : Settings.ofVariables (withSnapshotPath "b") =
      .ok (plainSettings ⟨"b"⟩ ⟨metadataFileName⟩) := by decide +kernel
  have htimely : ∀ event ∈ bareEvents, event.IsTimely := by
    intro event hevent
    simp only [bareEvents, List.mem_cons, List.not_mem_nil, or_false] at hevent
    obtain rfl | rfl | rfl | rfl := hevent
    · trivial
    · exact oneDocument_isTimely.history
    · trivial
    · trivial
  have hunset : withSnapshotPath "b" "METADATA_PATH" = none := by decide
  have hon := isOn_empty
  have hsession := session_b
  rw [metadataPathFor_b] at hon hsession
  obtain ⟨-, -, hanswers, -⟩ := apart_unless_named_alike haccepted hunset
  exact ⟨haccepted, hunset, keepsApart_b, hon, hsession, htimely,
    hanswers keepsApart_b _ _ _ _ hon hsession htimely⟩

/-- A snapshot of the name of the metadata file is put in the place of what was recorded. -/
theorem history_forgotten_by_save :
    let path : Path := ⟨metadataFileName⟩
    let world : World := ⟨Disk.empty [], ⟨0, 0⟩, 0, false⟩
    let recorded := Repository.File.recordHistoryAlone path [oneRecord] world
    let saved := World.run (Snapshot.save path (bare "1")) recorded.2
    withSnapshotPath metadataFileName "METADATA_PATH" = none ∧
      Settings.ofVariables (withSnapshotPath metadataFileName) = .ok (plainSettings path path) ∧
      recorded.1 = .ok () ∧ saved.1 = .ok () ∧
      (Repository.File.historyAlone path saved.2).1 = .ok [] := by
  decide +kernel

end Bare

end Stores

end SchemaCodegen
