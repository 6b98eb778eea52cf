import SchemaCodegen.Proofs.Repository.Holding

/-!
# Sessions with a repository in a file

Calls one after the other on one file, and what a repository in memory remembers of them. Where the
file is missing at first, and stays missing when directories are created (`Disk.Lacks`), the file
answers each call as the memory does (`File.Session.answers_as_memory`).
-/

namespace SchemaCodegen.Repository.File

variable {path : Path} {d d' : Disk}

/-- A call with its reply, and whether an operation on the disk failed meanwhile. -/
structure Visit where
  call : Call
  reply : Reply call
  failed : Bool

/-- Calls one after the other. A repository keeps nothing but its path from one call to the next, so
between any two of them it may be opened anew. -/
inductive Session (path : Path) (d : Disk) : List Visit → Disk → Prop where
  | start : Session path d [] d
  | visit {visits : List Visit} {between d' : Disk} {call : Call} {reply : Reply call}
      {failed : Bool} (before : Session path d visits between)
      (run : Script.Runs (watched path) (answer path call) (between, false) reply (d', failed)) :
      Session path d (visits ++ [⟨call, reply, failed⟩]) d'

/-- The document of a repository in memory after the calls during which nothing failed. -/
def remembered (m : MetadataDocument) (visits : List Visit) : MetadataDocument :=
  visits.foldl (fun m v => if v.failed then m else (Memory.answer v.call m).2) m

namespace Visit

/-- The reply is that of a repository in memory, or a failure if an operation failed. -/
def IsAnsweredFrom (v : Visit) (m : MetadataDocument) : Prop :=
  (v.failed = false → v.reply = (Memory.answer v.call m).1) ∧
    (v.failed = true → (failure? v.call v.reply).isSome)

variable {before between : List Visit}

theorem remembered_append (m : MetadataDocument) (before after : List Visit) :
    remembered m (before ++ after) = remembered (remembered m before) after :=
  List.foldl_append

/-- What no call in between changes is remembered as before. -/
theorem remembered_of_keeps {α : Type} {part : MetadataDocument → α} {keeps : Call → Bool}
    (hkeeps : ∀ call m, keeps call = true → part (Memory.answer call m).2 = part m)
    (h : ∀ v ∈ between, v.failed = true ∨ keeps v.call = true) (m : MetadataDocument) :
    part (remembered m between) = part m := by
  induction between generalizing m with
  | nil => rfl
  | cons v between ih =>
    have hrest := ih fun w hw => h w (List.mem_cons_of_mem v hw)
    change part (remembered (if v.failed = true then m else _) between) = part m
    rw [hrest]
    split
    · rfl
    · next hworked =>
      exact hkeeps v.call m ((h v List.mem_cons_self).resolve_left hworked)

end Visit

open Visit

variable {visits : List Visit}

/-- What holds of each element and those before it, in a list that grows at its end. -/
theorem forall_parts_concat {α : Type} {P : List α → α → Prop} {l : List α} {a : α}
    (h : ∀ before b after, l = before ++ b :: after → P before b) (ha : P l a) :
    ∀ before b after, l ++ [a] = before ++ b :: after → P before b := by
  intro before b after hparts
  rcases List.eq_nil_or_concat after with rfl | ⟨after, last, rfl⟩
  · obtain ⟨rfl, hb⟩ := List.append_inj' hparts rfl
    cases hb
    exact ha
  · rw [List.concat_eq_append, ← List.cons_append, ← List.append_assoc] at hparts
    exact h before b after (List.append_inj' hparts rfl).1

/-- Each call is answered from what is held before, and what is held afterwards is remembered. -/
theorem Session.holds (session : Session path d visits d') (missing : d.Lacks path)
    (timely : ∀ v ∈ visits, v.call.IsTimely) :
    Holds path d' (remembered .empty visits) ∧
      ∀ before v after, visits = before ++ v :: after →
        v.IsAnsweredFrom (remembered .empty before) := by
  induction session with
  | start =>
    refine ⟨.missing missing, ?_⟩
    intro before v after h
    cases before <;> cases h
  | @visit visits between d' call reply failed session run ih =>
    obtain ⟨hholds, hearlier⟩ := ih fun v hv => timely v (List.mem_append_left _ hv)
    have hcall : call.IsTimely := timely _ (List.mem_append_right _ List.mem_cons_self)
    have hlast : remembered .empty (visits ++ [⟨call, reply, failed⟩]) =
        if failed = true then remembered .empty visits
        else (Memory.answer call (remembered .empty visits)).2 := remembered_append _ _ _
    rw [hlast]
    rcases hholds.of_answer hcall run with ⟨rfl, hreply, hholds⟩ | ⟨rfl, hfailure, hholds⟩
    · exact ⟨hholds, forall_parts_concat hearlier ⟨fun _ => hreply, (nomatch ·)⟩⟩
    · exact ⟨hholds, forall_parts_concat hearlier ⟨(nomatch ·), fun _ => hfailure⟩⟩

/-- A file that is missing, and stays missing when the directories above it are created, keeps
metadata as a repository in memory does: a call during which no operation fails has the same reply,
and one during which some operation fails is answered by a failure and changes nothing that later
calls are told. What was recorded is lost by no other change, and recording changes no state. -/
theorem Session.answers_as_memory (session : Session path d visits d') (missing : d.Lacks path)
    (timely : ∀ v ∈ visits, v.call.IsTimely) :
    (∀ before v after, visits = before ++ v :: after →
      v.IsAnsweredFrom (remembered .empty before)) ∧
    (∀ before between after table reply reply',
      visits = before ++ ⟨.history table, reply, false⟩ ::
        (between ++ ⟨.history table, reply', false⟩ :: after) →
      (∀ v ∈ between, v.failed = true ∨ v.call.keepsHistory = true) → reply' = reply) ∧
    ∀ before between after reply reply',
      visits = before ++ ⟨.load, reply, false⟩ ::
        (between ++ ⟨.load, reply', false⟩ :: after) →
      (∀ v ∈ between, v.failed = true ∨ v.call.keepsState = true) → reply' = reply := by
  obtain ⟨-, hanswered⟩ := session.holds missing timely
  refine ⟨hanswered, ?_, ?_⟩
  · intro before between after table reply reply' hvisits hbetween
    have hfirst := (hanswered _ _ _ hvisits).1 rfl
    have hsecond := (hanswered (before ++ ⟨.history table, reply, false⟩ :: between)
      ⟨.history table, reply', false⟩ after (by simp [hvisits])).1 rfl
    rw [remembered_append] at hsecond
    have hkept : (remembered (remembered .empty before)
        (⟨.history table, reply, false⟩ :: between)).history =
          (remembered .empty before).history :=
      remembered_of_keeps (fun _ _ => Memory.history_answer) hbetween _
    exact hsecond.trans ((congrArg (fun history => Except.ok (HistoryRecord.select history table))
      hkept).trans hfirst.symm)
  · intro before between after reply reply' hvisits hbetween
    have hfirst := (hanswered _ _ _ hvisits).1 rfl
    have hsecond := (hanswered (before ++ ⟨.load, reply, false⟩ :: between)
      ⟨.load, reply', false⟩ after (by simp [hvisits])).1 rfl
    rw [remembered_append] at hsecond
    have hkept : (remembered (remembered .empty before) (⟨.load, reply, false⟩ :: between)).state =
        (remembered .empty before).state :=
      remembered_of_keeps (fun _ _ => Memory.state_answer) hbetween _
    exact hsecond.trans ((congrArg Except.ok hkept).trans hfirst.symm)

section OneRecord

def oneRecord : HistoryRecord where
  id := Uuid.ofNumber 7
  schemaName := "dbo"
  tableName := "T"
  artifact := "m"
  outputPath := "T.txt"
  outcome := .written
  error := none
  generatedAt := ⟨0, 0⟩

/-- The document that holds nothing but the record. -/
def oneDocument : MetadataDocument :=
  ⟨.empty, [oneRecord]⟩

def oneTemporary : Path :=
  temporaryPath ⟨"m"⟩ (Uuid.ofNumber 0)

def oneStored : Disk :=
  (Disk.empty []).insert [oneTemporary.text] (.file oneDocument.toText.toUTF8)

/-- The disk after the document was written to its file. -/
def oneReplaced : Disk :=
  (oneStored.erase [oneTemporary.text]).insert ["m"] (.file oneDocument.toText.toUTF8)

/-- The record is recorded, the disk refuses to replace the state, and the history is read. -/
def oneVisits : List Visit :=
  [⟨.recordHistory [oneRecord], (.ok () : Outcome Unit), false⟩,
    ⟨.persist .empty, (.error (.io .busy) : Outcome Unit), true⟩,
    ⟨.history none, (.ok [oneRecord] : Outcome (List HistoryRecord)), false⟩]

theorem lacks_m : (Disk.empty []).Lacks ⟨"m"⟩ := by
  have hawaits : (Disk.empty []).Awaits ⟨"m"⟩ ["m"] :=
    ⟨by decide, [], "m", [], by decide, by decide, by decide, rfl,
      rfl, by decide⟩
  exact hawaits.lacks

attribute [local irreducible] Path.realParent?

/-- A name without a directory is looked up in the working directory. -/
theorem names_of_segments {p : Path} (hfault : Disk.pathFault? p = none)
    (hsegments : p.segments = [p.text]) (hfilled : p.text ≠ "") (hdot : p.text ≠ ".")
    (hup : p.text ≠ "..") (hlong : Disk.isTooLong p.text = false) (hstart : d.start p = []) :
    d.Names p [p.text] := by
  refine ⟨[], p.text, ?_, hlong, rfl⟩
  have hsteps : p.segments.filter (· != "") = [p.text] := by
    rw [hsegments, List.filter_cons_of_pos (by simpa using hfilled), List.filter_nil]
  rw [Disk.locate_eq, hfault]
  change d.walk p = _
  unfold Disk.walk
  rw [hsteps, hsegments, hstart]
  change (if p.text == "." || p.text == ".." then _ else _) = _
  rw [if_neg (by simp [hdot, hup])]
  have hslash : ([p.text].getLast? == some "") = false := by simp [hfilled]
  rw [hslash]
  rfl

theorem names_oneTemporary (h : d.workingDirectory = []) :
    d.Names oneTemporary [oneTemporary.text] :=
  names_of_segments (by decide) (by decide) (by decide) (by decide)
    (by decide) (by decide) ((if_neg (by decide)).trans h)

theorem realParent?_m : Path.realParent? ⟨"m"⟩ = none := by
  decide +kernel

theorem names_m (h : d.workingDirectory = []) : d.Names ⟨"m"⟩ ["m"] :=
  names_of_segments (p := ⟨"m"⟩) (by decide) (by decide) (by decide)
    (by decide) (by decide) (by decide)
    ((if_neg (by decide)).trans h)

theorem readFile_oneReplaced :
    oneReplaced.readFile ⟨"m"⟩ = .ok oneDocument.toText.toUTF8 :=
  Disk.readFile_iff.2 ⟨["m"], names_m rfl, (Disk.entryAt_insert (by decide)).trans (if_pos rfl)⟩

section Runs

variable {document : MetadataDocument} {outcome : Outcome Unit} {failed : Bool}
  {t x : Disk.Location}

/-- The document is written up to a new identity. -/
theorem runs_writeDocument (hparent : path.realParent? = none)
    (hunused : d.Unused (temporaryPath path (Uuid.ofNumber 0)))
    (h : Procedure.Runs (watched path) (do
        Job.write (temporaryPath path (Uuid.ofNumber 0)) document.toText.toUTF8
        Job.orElseRun (Job.rename (temporaryPath path (Uuid.ofNumber 0)) path)
          (Job.discard (temporaryPath path (Uuid.ofNumber 0)))) (d, false) outcome (d', failed)) :
    Procedure.Runs (watched path) (writeDocument path document) (d, false) outcome
      (d', failed) := by
  have hid : Procedure.Runs (watched path) Job.freshId (d, false) (.ok (Uuid.ofNumber 0))
      (d, false) :=
    Procedure.runs_ofScript_ok.2 (Script.runs_call.2 ⟨⟨hunused, rfl⟩, nofun, rfl⟩)
  unfold writeDocument
  rw [hparent]
  exact Procedure.runs_bind.2 (.inr ⟨_, (d, false), hid, h⟩)

/-- Nothing hinders the writing. -/
theorem runs_writeDocument_ok (hparent : path.realParent? = none)
    (hunused : d.Unused (temporaryPath path (Uuid.ofNumber 0)))
    (ht : d.Names (temporaryPath path (Uuid.ofNumber 0)) t) (hx : d.Names path x) (hne : x ≠ t)
    (hfree : d.entry? x ≠ some .directory) :
    Procedure.Runs (watched path) (writeDocument path document) (d, false) (.ok ())
      (((d.insert t (.file document.toText.toUTF8)).erase t).insert x
        (.file document.toText.toUTF8), false) := by
  generalize hstored : d.insert t (.file document.toText.toUTF8) = stored
  have hwrite : d.writeFile (temporaryPath path (Uuid.ofNumber 0)) document.toText.toUTF8 =
      .ok stored := Disk.writeFile_iff.2 ⟨t, ht, by simp [hunused t ht], hstored.symm⟩
  have hextends := (Disk.stays_of_writeFile hwrite).toExtends
  have htemporary : stored.entry? t = some (.file document.toText.toUTF8) := by
    rw [← hstored, Disk.entryAt_insert ht.ne_nil, if_pos rfl]
  have hfree' : stored.entry? x ≠ some .directory := by
    rwa [← hstored, Disk.entryAt_insert ht.ne_nil, if_neg hne]
  have hrename := Disk.rename_of_names (ht.mono hextends) htemporary (hx.mono hextends) hfree'
  have hstore : Procedure.Runs (watched path)
      (Job.write (temporaryPath path (Uuid.ofNumber 0)) document.toText.toUTF8) (d, false)
      (.ok ()) (stored, false) :=
    Job.runs_ofDisk_ok.2 (Script.runs_call.2 ⟨hwrite, nofun, rfl⟩)
  have hmove : Procedure.Runs (watched path)
      (Job.rename (temporaryPath path (Uuid.ofNumber 0)) path) (stored, false) (.ok ())
      (_, false) :=
    Job.runs_ofDisk_ok.2 (Script.runs_call.2 ⟨hrename, nofun, rfl⟩)
  exact runs_writeDocument hparent hunused
    (Procedure.runs_bind_ok.2 ⟨(), _, hstore, Job.runs_orElseRun_ok.2 hmove⟩)

theorem runs_writeDocument_m_ok (hstart : d.workingDirectory = []) (hunused : d.Unused oneTemporary)
    (hfree : d.entry? ["m"] ≠ some .directory) :
    Procedure.Runs (watched ⟨"m"⟩) (writeDocument ⟨"m"⟩ document) (d, false) (.ok ())
      (((d.insert [oneTemporary.text] (.file document.toText.toUTF8)).erase
        [oneTemporary.text]).insert ["m"] (.file document.toText.toUTF8), false) :=
  runs_writeDocument_ok realParent?_m hunused (names_oneTemporary hstart) (names_m hstart)
    (by decide) hfree

end Runs

theorem runs_recordHistory_m : Script.Runs (watched ⟨"m"⟩)
    (answer ⟨"m"⟩ (.recordHistory [oneRecord])) (Disk.empty [], false) (.ok ())
    (oneReplaced, false) := by
  have hunused : (Disk.empty []).Unused oneTemporary :=
    fun x hx => Disk.eq_none_of_probe (by decide) hx
  exact (Holds.missing lacks_m).runs_changeDocument rfl
    (runs_writeDocument_m_ok rfl hunused (by decide))

theorem oneDocument_isTimely : oneDocument.IsTimely := by
  refine ⟨fun _ _ hr => (nomatch hr), fun r hr => ?_⟩
  rw [oneDocument, List.mem_singleton] at hr
  rw [hr]
  decide

theorem holds_oneReplaced : Holds ⟨"m"⟩ oneReplaced oneDocument :=
  .written readFile_oneReplaced (MetadataDocument.ofText_of_isTimely oneDocument_isTimely)

/-- The disk is busy when the temporary file is to be written. -/
theorem runs_persist_m : Script.Runs (watched ⟨"m"⟩) (answer ⟨"m"⟩ (.persist .empty))
    (oneReplaced, false) (.error (.io .busy)) (oneReplaced, true) := by
  have hunused : oneReplaced.Unused oneTemporary :=
    fun x hx => Disk.eq_none_of_probe (by decide) hx
  have hwrite : Procedure.Runs (watched ⟨"m"⟩)
      (Job.write oneTemporary { oneDocument with state := .empty }.toText.toUTF8)
      (oneReplaced, false) (.error (.io .busy)) (oneReplaced, true) :=
    Job.runs_ofDisk_error.2 ⟨.busy, rfl, Script.runs_call.2 ⟨.inl rfl, nofun, rfl⟩⟩
  exact holds_oneReplaced.runs_changeDocument rfl
    (runs_writeDocument realParent?_m hunused (Procedure.runs_bind.2 (.inl ⟨_, rfl, hwrite⟩)))

theorem runs_history_m : Script.Runs (watched ⟨"m"⟩) (answer ⟨"m"⟩ (.history none))
    (oneReplaced, false) (.ok [oneRecord]) (oneReplaced, false) := by
  have hselect : HistoryRecord.select oneDocument.history none = [oneRecord] :=
    List.mergeSort_singleton oneRecord
  exact Procedure.runs_bind_ok.2 ⟨oneDocument, (oneReplaced, false),
    holds_oneReplaced.runs_readDocument,
    congrArg Except.ok hselect, rfl⟩

theorem session_m : Session ⟨"m"⟩ (Disk.empty []) oneVisits oneReplaced :=
  .visit (.visit (.visit .start runs_recordHistory_m) runs_persist_m) runs_history_m

theorem session_m_answers_as_memory :
    Session ⟨"m"⟩ (Disk.empty []) oneVisits oneReplaced ∧ (Disk.empty []).Lacks ⟨"m"⟩ ∧
      (∀ v ∈ oneVisits, v.call.IsTimely) ∧
      ∀ before v after, oneVisits = before ++ v :: after →
        v.IsAnsweredFrom (remembered .empty before) := by
  have htimely : ∀ v ∈ oneVisits, v.call.IsTimely := by
    intro v hv
    simp only [oneVisits, List.mem_cons, List.not_mem_nil, or_false] at hv
    obtain rfl | rfl | rfl := hv
    · exact oneDocument_isTimely.history
    · exact MetadataDocument.isTimely_empty.state
    · trivial
  exact ⟨session_m, lacks_m, htimely, (session_m.answers_as_memory lacks_m htimely).1⟩

end OneRecord

/-! ## A path through a missing directory -/

/-- The history is read on a machine without faults. -/
def historyAlone (path : Path) (world : World) : Outcome (List HistoryRecord) × World :=
  Script.run (I := machine) World.answer (answer path (.history none)) world

def recordHistoryAlone (path : Path) (records : List HistoryRecord) (world : World) :
    Outcome Unit × World :=
  Script.run (I := machine) World.answer (answer path (.recordHistory records)) world

/-- Nothing is at a path that goes through a missing directory, but once the directory has been
created the path may lead to it. Recording then fails, and the history that could be read before can
no more be read. -/
theorem history_through_missing_directory :
    let path : Path := ⟨"d/../d"⟩
    let world : World := ⟨Disk.empty [], ⟨0, 0⟩, 0, false⟩
    let recorded := recordHistoryAlone path [oneRecord] world
    world.disk.readFile path = .error .notFound ∧
      (historyAlone path world).1 = .ok [] ∧
      recorded.1 = .error (.io .isDirectory) ∧
      (historyAlone path recorded.2).1 = .error (.io .isDirectory) := by
  decide +kernel

end SchemaCodegen.Repository.File
