import Mathlib.Control.Monad.Basic
import SchemaCodegen.Proofs.Output.Replacement

/-!
# Nothing is lost, and nothing is half done

A request to the writer that succeeds has replaced the file of its path and saved the old content
(`replaced_of_request`); one that fails leaves only new directories, as long as the files that the
writing itself added can be removed (`request_all_or_nothing`). Hence no content is ever lost,
however many requests follow each other and however they end (`request_loses_nothing`).
-/

namespace SchemaCodegen.Output

open Disk (Extends Grown Kept Location)

/-- What a writer is asked to do to a path. -/
inductive Request where
  | write (content : String)
  | update (anchor replacement : String)

namespace Request

def task (path : Path) : Request → Task Written
  | .write content => Output.write path content
  | .update anchor replacement => Output.update path anchor replacement

/-- What a request does while it holds the lock of its path. -/
def job (path : Path) : Request → Job Written
  | .write content => replaceContent path content
  | .update anchor replacement => replaceAnchor path anchor replacement

/-- A request is refused at once, or it goes for the lock. -/
theorem task_cases (path : Path) (request : Request) :
    (∃ failure, request.task path = throw failure) ∨
      request.task path = Task.locked path (request.job path) := by
  cases request with
  | write content =>
    unfold task Output.write
    cases checkPath path with
    | error failure => exact .inl ⟨failure, rfl⟩
    | ok _ => exact .inr rfl
  | update anchor replacement =>
    unfold task Output.update
    cases checkPath path with
    | error failure => exact .inl ⟨failure, rfl⟩
    | ok _ =>
      change (∃ failure, (if anchor.isEmpty = true then
          throw (.invalidArgument "Anchor text must not be empty")
        else Task.locked path (replaceAnchor path anchor replacement)) = throw failure) ∨
        (if anchor.isEmpty = true then throw (.invalidArgument "Anchor text must not be empty")
        else Task.locked path (replaceAnchor path anchor replacement)) = _
      split
      · exact .inl ⟨_, rfl⟩
      · exact .inr rfl

/-- The content that a request is to put at a path. -/
inductive Puts (path : Path) (d : Disk) : Request → String → Prop where
  | write (content : String) : Puts path d (.write content) content
  | update {text anchor replacement : String} (read : d.readFile path = .ok text.toUTF8)
      (once : Text.count text anchor = 1) :
      Puts path d (.update anchor replacement) (Text.replaceFirst text anchor replacement)

end Request

/-! ## Tasks -/

section Tasks

variable {path p : Path} {removes : Bool} {d d' : Disk} {α : Type}

/-- The lock around a job does not change what it does to the disk. -/
theorem runs_locked_iff {step : machine.Step Disk} {job : Job α} {outcome : Outcome α}
    (quiet : ∀ d reply d', step .workingDirectory d reply d' ↔ d' = d) :
    Procedure.Runs (Interface.Step.sum step fun _ d _ d' => d' = d) (Task.locked p job) d outcome
      d' ↔ Procedure.Runs step job d outcome d' := by
  have hlocks : ∀ {call : Locks.Call} {reply : Locks.Reply call} {t u : Disk},
      Script.Runs (Interface.Step.sum step fun _ d _ d' => d' = d) (Task.askLocks call) t reply u ↔
        u = t := Script.runs_right.trans Script.runs_call
  constructor
  · intro h
    rcases Procedure.runs_bind.1 h with ⟨failure, -, hbase⟩ | ⟨base, t, hbase, hrest⟩
    · exact absurd (Procedure.runs_left.1 hbase) Procedure.not_runs_ofScript_error
    · have hask := Procedure.runs_ofScript_ok.1 (Procedure.runs_left.1 hbase)
      obtain rfl := (quiet _ _ _).1 (Script.runs_call.1 hask)
      obtain ⟨lock, t₁, hlease, hrest⟩ := Script.runs_bind.1 (Procedure.runs_mk.1 hrest)
      obtain ⟨_, t₂, hhold, hrest⟩ := Script.runs_bind.1 hrest
      obtain ⟨result, t₃, hjob, hrest⟩ := Script.runs_bind.1 hrest
      obtain ⟨_, t₄, hrelease, hdone⟩ := Script.runs_bind.1 hrest
      obtain ⟨heq, rfl⟩ := Script.runs_pure.1 hdone
      rw [hlocks.1 hrelease, ← heq]
      rw [hlocks.1 hhold, hlocks.1 hlease] at hjob
      exact Procedure.runs_left.1 hjob
  · intro h
    have hbase : Procedure.Runs (Interface.Step.sum step fun _ d _ d' => d' = d)
        (Task.ofJob (Job.ask .workingDirectory)) d (.ok (⟨"/"⟩ : Path)) d :=
      Procedure.runs_left.2
        (Procedure.runs_ofScript_ok.2 (Script.runs_call.2 ((quiet _ _ _).2 rfl)))
    have hjob : Procedure.Runs (Interface.Step.sum step fun _ d _ d' => d' = d) (Task.ofJob job) d
        outcome d' := Procedure.runs_left.2 h
    refine Procedure.runs_bind.2 (.inr ⟨_, d, hbase, ?_⟩)
    refine Script.runs_bind.2 ⟨(0 : Nat), d, hlocks.2 rfl, ?_⟩
    refine Script.runs_bind.2 ⟨(), d, hlocks.2 rfl, ?_⟩
    refine Script.runs_bind.2 ⟨outcome, d', hjob, ?_⟩
    exact Script.runs_bind.2 ⟨(), d', hlocks.2 rfl, rfl, rfl⟩

theorem runs_locked {job : Job α} {outcome : Outcome α} :
    Procedure.Runs (faultyTask path removes) (Task.locked p job) d outcome d' ↔
      Procedure.Runs (faulty path removes) job d outcome d' :=
  runs_locked_iff fun _ _ _ => Iff.rfl

theorem of_tryReadText {reply : Except Disk.Fault String}
    (h : Script.Runs (faulty path removes) (Job.tryReadText p) d reply d') :
    d' = d ∧ ∀ text, reply = .ok text → d.readFile p = .ok text.toUTF8 := by
  obtain ⟨bytes, hread, rfl⟩ := Job.runs_tryReadText.1 h
  obtain ⟨htold, rfl⟩ := hread
  refine ⟨rfl, fun text htext => ?_⟩
  cases Job.textOf_eq_ok_iff.1 htext
  exact htold

/-- An update is a writing of the text with its one anchor replaced, or it leaves the disk. -/
theorem of_replaceAnchor {anchor replacement : String} {outcome : Outcome Written}
    (h : Procedure.Runs (faulty path removes) (replaceAnchor p anchor replacement) d outcome d') :
    (∃ failure, outcome = .error failure ∧ d' = d) ∨
      ∃ text, d.readFile p = .ok text.toUTF8 ∧ Text.count text anchor = 1 ∧
        Procedure.Runs (faulty path removes)
          (replaceContent p (Text.replaceFirst text anchor replacement)) d outcome d' := by
  unfold replaceAnchor at h
  rcases Procedure.runs_bind.1 h with ⟨failure, -, hread⟩ | ⟨read, t, hread, hrest⟩
  · exact absurd hread Procedure.not_runs_ofScript_error
  obtain ⟨rfl, htext⟩ := of_tryReadText (Procedure.runs_ofScript_ok.1 hread)
  split at hrest
  · obtain ⟨rfl, rfl⟩ := Procedure.runs_throw.1 hrest
    exact .inl ⟨_, rfl, rfl⟩
  · obtain ⟨rfl, rfl⟩ := Procedure.runs_throw.1 hrest
    exact .inl ⟨_, rfl, rfl⟩
  · next text =>
    dsimp only at hrest
    split at hrest
    · obtain ⟨rfl, rfl⟩ := Procedure.runs_throw.1 hrest
      exact .inl ⟨_, rfl, rfl⟩
    · next honce => exact .inr ⟨text, htext text rfl, honce, hrest⟩
    · obtain ⟨rfl, rfl⟩ := Procedure.runs_throw.1 hrest
      exact .inl ⟨_, rfl, rfl⟩

/-- A request writes what it is to put at the path, or it leaves the disk. -/
theorem of_request {request : Request} {outcome : Outcome Written}
    (h : Procedure.Runs (faultyTask path removes) (request.task path) d outcome d') :
    (∃ failure, outcome = .error failure ∧ d' = d) ∨
      ∃ content, request.Puts path d content ∧
        Procedure.Runs (faulty path removes) (replaceContent path content) d outcome d' := by
  rcases request.task_cases path with ⟨failure, hrefused⟩ | hlocked
  · rw [hrefused] at h
    obtain ⟨rfl, rfl⟩ := Procedure.runs_throw.1 h
    exact .inl ⟨failure, rfl, rfl⟩
  rw [hlocked] at h
  cases request with
  | write content => exact .inr ⟨content, .write content, runs_locked.1 h⟩
  | update anchor replacement =>
    rcases of_replaceAnchor (runs_locked.1 h) with hleft | ⟨text, hread, honce, hwrite⟩
    · exact .inl hleft
    · exact .inr ⟨_, .update hread honce, hwrite⟩

end Tasks

/-! ## Two runs -/

section OneFile

/-- A disk that holds one file. -/
def oneFile : Disk :=
  (Disk.empty []).insert ["f"] (.file "old".toUTF8)

def oneFileTemporary : Path :=
  temporaryPath ⟨"f"⟩ (Uuid.ofNumber 0)

def oneFileStored : Disk :=
  oneFile.insert [oneFileTemporary.text] (.file "new".toUTF8)

def oneFileSaved : Disk :=
  oneFileStored.insert ["f.bak"] (.file "old".toUTF8)

/-- The disk after a writing to its one file. -/
def oneFileReplaced : Disk :=
  (oneFileSaved.erase [oneFileTemporary.text]).insert ["f"] (.file "new".toUTF8)

/-- The disk after such a writing failed in its last step. -/
def oneFileUndone : Disk :=
  (oneFileSaved.erase ["f.bak"]).erase [oneFileTemporary.text]

variable {d d' : Disk} {step : machine.Step Disk}

/-- What may happen on a faulty machine may happen, and the caller still waits. -/
structure Serves (step : machine.Step Disk) : Prop where
  call : ∀ {call : Machine.Call} {d d' : Disk} {reply : Machine.Reply call},
    call ≠ .workingDirectory → call ≠ .isCancelled → faulty ⟨"f"⟩ true call d reply d' →
    step call d reply d'
  waits : ∀ d, step .isCancelled d false d

theorem serves_faulty : Serves (faulty ⟨"f"⟩ true) :=
  ⟨fun _ _ h => h, fun _ => rfl⟩

theorem runs_checkCancelled_f (serves : Serves step) :
    Procedure.Runs step (checkCancelled ⟨"f"⟩) d (.ok ()) d :=
  Procedure.runs_bind_ok.2
    ⟨false, d, Procedure.runs_ofScript_ok.2 (Script.runs_call.2 (serves.waits d)), rfl, rfl⟩

theorem runs_backUpExisting_oneFile (serves : Serves step) :
    Procedure.Runs step (backUpExisting ⟨"f"⟩) oneFileStored (.ok (some ⟨"f.bak"⟩))
      oneFileSaved := by
  have hprobe : ∀ p found, oneFileStored.probe p = .ok found →
      Procedure.Runs step (Job.probe p) oneFileStored (.ok found) oneFileStored :=
    fun p found h => Job.runs_ofDisk_ok.2 (Script.runs_call.2 (serves.call nofun nofun ⟨h, rfl⟩))
  have hcopy : oneFileStored.copyFile ⟨"f"⟩ ⟨"f.bak"⟩ = .ok oneFileSaved := by decide
  have hcopied : Procedure.Runs step (Job.copy ⟨"f"⟩ ⟨"f.bak"⟩) oneFileStored (.ok ())
      oneFileSaved := Job.runs_ofDisk_ok.2 (Script.runs_call.2 (serves.call nofun nofun hcopy))
  refine Procedure.runs_bind_ok.2 ⟨true, _, hprobe _ _ (by decide), ?_⟩
  rw [if_pos rfl, map_eq_pure_bind]
  refine Procedure.runs_bind_ok.2 ⟨⟨"f.bak"⟩, oneFileSaved, ?_, rfl, rfl⟩
  refine Procedure.runs_bind_ok.2 ⟨⟨"f.bak"⟩, oneFileStored, ?_, ?_⟩
  · exact Procedure.runs_bind_ok.2 ⟨false, _, hprobe _ _ (by decide), rfl, rfl⟩
  · exact Procedure.runs_bind_ok.2
      ⟨(), oneFileSaved, Job.runs_orElseRun_ok.2 hcopied, rfl, rfl⟩

attribute [local irreducible] Path.realParent?

/-- All steps but the last succeed. -/
theorem runs_replaceContent_oneFile (serves : Serves step) {outcome : Outcome Written}
    (h : Procedure.Runs step
      (Job.orElseRun (install oneFileTemporary ⟨"f"⟩ "new".toUTF8) (Job.discard oneFileTemporary))
      oneFile outcome d') :
    Procedure.Runs step (replaceContent ⟨"f"⟩ "new") oneFile outcome d' := by
  have hparent : Path.realParent? ⟨"f"⟩ = none := by decide +kernel
  have hunused : oneFile.Unused oneFileTemporary :=
    fun x hx => Disk.eq_none_of_probe (by decide) hx
  have hid : Procedure.Runs step Job.freshId oneFile (.ok (Uuid.ofNumber 0)) oneFile :=
    Procedure.runs_ofScript_ok.2 (Script.runs_call.2 (serves.call nofun nofun ⟨hunused, rfl⟩))
  refine Procedure.runs_bind.2 (.inr ⟨(), oneFile, runs_checkCancelled_f serves, ?_⟩)
  refine Procedure.runs_bind.2 (.inr ⟨(), oneFile, runs_createParents_of_none hparent, ?_⟩)
  exact Procedure.runs_bind.2 (.inr ⟨_, oneFile, hid, h⟩)

theorem runs_install_oneFile (serves : Serves step) {outcome : Outcome Written}
    (h : Procedure.Runs step
      (do
        Job.orElseRun (moveOver oneFileTemporary ⟨"f"⟩) (Job.discard ⟨"f.bak"⟩)
        return ⟨⟨"f"⟩, some ⟨"f.bak"⟩, 3⟩) oneFileSaved outcome d') :
    Procedure.Runs step (install oneFileTemporary ⟨"f"⟩ "new".toUTF8) oneFile outcome d' := by
  have hwrite : oneFile.writeFile oneFileTemporary "new".toUTF8 = .ok oneFileStored := by
    decide
  have hwritten : Procedure.Runs step (Job.write oneFileTemporary "new".toUTF8) oneFile (.ok ())
      oneFileStored := Job.runs_ofDisk_ok.2 (Script.runs_call.2 (serves.call nofun nofun hwrite))
  refine Procedure.runs_bind.2 (.inr ⟨(), oneFileStored, hwritten, ?_⟩)
  exact Procedure.runs_bind.2 (.inr ⟨_, oneFileSaved, runs_backUpExisting_oneFile serves, h⟩)

theorem runs_replaceContent_oneFile_ok (serves : Serves step) :
    Procedure.Runs step (replaceContent ⟨"f"⟩ "new") oneFile
      (.ok ⟨⟨"f"⟩, some ⟨"f.bak"⟩, 3⟩) oneFileReplaced := by
  have hrename : oneFileSaved.rename oneFileTemporary ⟨"f"⟩ = .ok oneFileReplaced := by
    decide
  have hmove : Procedure.Runs step (moveOver oneFileTemporary ⟨"f"⟩) oneFileSaved (.ok ())
      oneFileReplaced :=
    Procedure.runs_bind_ok.2 ⟨(), _, runs_checkCancelled_f serves,
      Job.runs_ofDisk_ok.2 (Script.runs_call.2 (serves.call nofun nofun hrename))⟩
  refine runs_replaceContent_oneFile serves
    (Job.runs_orElseRun_ok.2 (runs_install_oneFile serves ?_))
  exact Procedure.runs_bind_ok.2
    ⟨(), oneFileReplaced, Job.runs_orElseRun_ok.2 hmove, rfl, rfl⟩

/-- A writing to the one file is admitted. -/
theorem runs_write_oneFile {outcome : Outcome Written}
    (h : Procedure.Runs (faulty ⟨"f"⟩ true) (replaceContent ⟨"f"⟩ "new") d outcome d') :
    Procedure.Runs (faultyTask ⟨"f"⟩ true) (Request.task ⟨"f"⟩ (.write "new")) d outcome d' := by
  have hvalid : checkPath ⟨"f"⟩ = .ok () := by decide
  exact Procedure.runs_bind.2 (.inr ⟨(), d, ⟨hvalid, rfl⟩, runs_locked.2 h⟩)

theorem runs_write_oneFile_ok :
    Procedure.Runs (faultyTask ⟨"f"⟩ true) (Request.task ⟨"f"⟩ (.write "new")) oneFile
      (.ok ⟨⟨"f"⟩, some ⟨"f.bak"⟩, 3⟩) oneFileReplaced :=
  runs_write_oneFile (runs_replaceContent_oneFile_ok serves_faulty)

/-- The backup was made when the renaming fails, and is taken back. -/
theorem runs_write_oneFile_error :
    Procedure.Runs (faultyTask ⟨"f"⟩ true) (Request.task ⟨"f"⟩ (.write "new")) oneFile
      (.error (.io .busy)) oneFileUndone := by
  have hbackup : oneFileSaved.removeFile ⟨"f.bak"⟩ = .ok (oneFileSaved.erase ["f.bak"]) := by
    decide
  have htemporary : Disk.removeFile (oneFileSaved.erase ["f.bak"]) oneFileTemporary =
      .ok oneFileUndone := by
    decide
  have hmove : Procedure.Runs (faulty ⟨"f"⟩ true) (moveOver oneFileTemporary ⟨"f"⟩) oneFileSaved
      (.error (.io .busy)) oneFileSaved :=
    Procedure.runs_bind_error.2 (.inr ⟨(), oneFileSaved, runs_checkCancelled_f serves_faulty,
      Job.runs_ofDisk_error.2 ⟨.busy, rfl, Script.runs_call.2 rfl⟩⟩)
  refine runs_write_oneFile (runs_replaceContent_oneFile serves_faulty
    (Job.runs_orElseRun_error.2 ⟨_, runs_install_oneFile serves_faulty ?_,
      Job.runs_discard.2 ⟨.ok (), htemporary⟩⟩))
  exact Procedure.runs_bind_error.2 (.inl (Job.runs_orElseRun_error.2
    ⟨_, hmove, Job.runs_discard.2 ⟨.ok (), hbackup⟩⟩))

end OneFile

/-! ## One request -/

section OneRequest

variable {path : Path} {removes : Bool} {d between d' : Disk} {content : ByteArray}
  {backup? : Option Path}

theorem replaced_of_request {request : Request} {written : Written}
    (h : Procedure.Runs (faultyTask path removes) (request.task path) d (.ok written) d') :
    ∃ content, request.Puts path d content ∧
      Replaced path content.toUTF8 d d' written.backup := by
  rcases of_request h with ⟨failure, heq, -⟩ | ⟨content, hputs, hwrite⟩
  · cases heq
  · obtain ⟨between, id, hgrown, hunused, hinstall⟩ := of_replaceContent_ok hwrite
    exact ⟨content, hputs, replaced_of_install hgrown hunused hinstall⟩

theorem makes_of_request_error {request : Request} {failure : Failure}
    (h : Procedure.Runs (faultyTask path removes) (request.task path) d (.error failure) d') :
    ∃ between, Disk.Makes path.Above d between ∧
      Leaves (fun _ => removes = false) between d' := by
  rcases of_request h with ⟨failure, -, rfl⟩ | ⟨content, hputs, hwrite⟩
  · exact ⟨d', .none, .refl _ _⟩
  · exact of_replaceContent_error hwrite

theorem of_request_error {request : Request} {failure : Failure}
    (h : Procedure.Runs (faultyTask path removes) (request.task path) d (.error failure) d') :
    ∃ between, Grown path.Above d between ∧ Leaves (fun _ => removes = false) between d' := by
  obtain ⟨between, hmakes, hleaves⟩ := makes_of_request_error h
  exact ⟨between, hmakes.grown, hleaves⟩

/-- A request has its whole effect, or it has none but new directories above its path: at whatever
point an operation on the disk fails or the caller goes away, as long as files can be removed. -/
theorem request_all_or_nothing {request : Request} {outcome : Outcome Written}
    (h : Procedure.Runs (faultyTask path true) (request.task path) d outcome d') :
    match outcome with
    | .ok written =>
      ∃ content, request.Puts path d content ∧ Replaced path content.toUTF8 d d' written.backup
    | .error _ => Grown path.Above d d' := by
  cases outcome with
  | ok written => exact replaced_of_request h
  | error failure =>
    obtain ⟨between, hgrown, hleaves⟩ := of_request_error h
    exact hleaves.grown (fun _ => Bool.noConfusion) hgrown

theorem request_all_or_nothing_oneFile :
    (∃ content, (Request.write "new").Puts ⟨"f"⟩ oneFile content ∧
      Replaced ⟨"f"⟩ content.toUTF8 oneFile oneFileReplaced (some ⟨"f.bak"⟩)) ∧
    Grown (Path.Above ⟨"f"⟩) oneFile oneFileUndone :=
  ⟨request_all_or_nothing runs_write_oneFile_ok, request_all_or_nothing runs_write_oneFile_error⟩

end OneRequest

/-! ## Many requests -/

/-- Every content is still in some file, and every content that could be read still can be. -/
structure Keeps (d d' : Disk) : Prop where
  file : ∀ x content, d.entry? x = some (.file content) → ∃ y, d'.entry? y = some (.file content)
  readable : ∀ p content, d.readFile p = .ok content → ∃ q, d'.readFile q = .ok content

/-- Requests follow each other, each of them with faults of its own. -/
inductive Requests : Disk → Disk → Prop where
  | none (d : Disk) : Requests d d
  | next {d d' d'' : Disk} (before : Requests d d') (path : Path) (removes : Bool)
      (request : Request) (outcome : Outcome Written)
      (run : Procedure.Runs (faultyTask path removes) (request.task path) d' outcome d'') :
      Requests d d''

section ManyRequests

variable {path : Path} {d d' d'' : Disk} {content old : ByteArray} {backup? : Option Path}
  {z : Location}

theorem Keeps.trans (h : Keeps d d') (h' : Keeps d' d'') : Keeps d d'' := by
  constructor
  · intro x content hx
    obtain ⟨y, hy⟩ := h.file x content hx
    exact h'.file y content hy
  · intro p content hp
    obtain ⟨q, hq⟩ := h.readable p content hp
    exact h'.readable q content hq

/-- Where all files are as they were, their paths still lead to them. -/
theorem Keeps.of_extends (hextends : Extends d d')
    (hfile : ∀ x content, d.entry? x = some (.file content) → d'.entry? x = some (.file content)) :
    Keeps d d' := by
  constructor
  · intro x content hx
    exact ⟨x, hfile x content hx⟩
  · intro p content hp
    obtain ⟨x, hnames, hx⟩ := Disk.readFile_iff.1 hp
    exact ⟨p, Disk.readFile_iff.2 ⟨x, hnames.mono hextends, hfile x content hx⟩⟩

theorem Replaced.toExtends (h : Replaced path content d d' backup?) : Extends d d' := by
  cases h with
  | created workingDirectory names before after others =>
    refine ⟨workingDirectory, fun z hz => (others z ?_).entry_some hz⟩
    rintro rfl
    rw [before] at hz
    cases hz
  | overwritten workingDirectory names before after namesBackup free saved others =>
    refine ⟨workingDirectory, fun z hz => (others z ?_ ?_).entry_some hz⟩
    · rintro rfl
      rw [before] at hz
      cases hz
    · rintro rfl
      rw [free] at hz
      cases hz

theorem Replaced.readFile (h : Replaced path content d d' backup?) :
    d'.readFile path = .ok content := by
  cases h with
  | created _ names _ after _ => exact Disk.readFile_iff.2 ⟨_, names, after⟩
  | overwritten _ names _ after _ _ _ _ => exact Disk.readFile_iff.2 ⟨_, names, after⟩

/-- A path that could be read has a backup. -/
theorem Replaced.readFile_backup (h : Replaced path content d d' backup?)
    (hread : d.readFile path = .ok old) :
    ∃ backup, backup? = some backup ∧ d'.readFile backup = .ok old := by
  obtain ⟨z, hz, hold⟩ := Disk.readFile_iff.1 hread
  have hz' : d'.Names path z := hz.mono h.toExtends
  cases h with
  | created _ names before _ _ =>
    rw [hz'.unique names, before] at hold
    cases hold
  | overwritten _ names before _ namesBackup _ saved _ =>
    rw [hz'.unique names, before] at hold
    cases hold
    exact ⟨_, rfl, Disk.readFile_iff.2 ⟨_, namesBackup, saved⟩⟩

/-- A file is as it was, or it is that of the path and its content is in the backup. -/
theorem Replaced.kept_or_saved (h : Replaced path content d d' backup?)
    (hz : d.entry? z = some (.file old)) :
    d'.entry? z = some (.file old) ∨
      ∃ backup y, d'.Names backup y ∧ d'.entry? y = some (.file old) := by
  cases h with
  | created _ _ before _ others =>
    refine .inl ((others z ?_).entry_some hz)
    rintro rfl
    rw [before] at hz
    cases hz
  | @overwritten x y _ backup _ _ before _ namesBackup free saved others =>
    by_cases hzx : z = x
    · rw [hzx, before] at hz
      cases hz
      exact .inr ⟨backup, y, namesBackup, saved⟩
    · refine .inl ((others z hzx ?_).entry_some hz)
      rintro rfl
      rw [free] at hz
      cases hz

theorem Replaced.keeps (h : Replaced path content d d' backup?) : Keeps d d' := by
  constructor
  · intro z old hz
    rcases h.kept_or_saved hz with hkept | ⟨backup, y, -, hsaved⟩
    · exact ⟨z, hkept⟩
    · exact ⟨y, hsaved⟩
  · intro p old hp
    obtain ⟨z, hnames, hz⟩ := Disk.readFile_iff.1 hp
    rcases h.kept_or_saved hz with hkept | ⟨backup, y, hbackup, hsaved⟩
    · exact ⟨p, Disk.readFile_iff.2 ⟨z, hnames.mono h.toExtends, hkept⟩⟩
    · exact ⟨backup, Disk.readFile_iff.2 ⟨y, hbackup, hsaved⟩⟩

/-- New directories and new files beside are no loss. -/
theorem Keeps.of_leaves {created left : Path → Prop} (hgrown : Grown created d d')
    (hleaves : Leaves left d' d'') : Keeps d d'' := by
  have hkept : Keeps d d' :=
    .of_extends hgrown.toExtends fun x _ hx => (hgrown.entry x).entry_some hx
  exact hkept.trans (.of_extends hleaves.toExtends fun _ _ hx => hleaves.entry_some hx)

theorem keeps_of_request {removes : Bool} {request : Request} {outcome : Outcome Written}
    (h : Procedure.Runs (faultyTask path removes) (request.task path) d outcome d') :
    Keeps d d' := by
  cases outcome with
  | ok written =>
    obtain ⟨content, -, hreplaced⟩ := replaced_of_request h
    exact hreplaced.keeps
  | error failure =>
    obtain ⟨between, hgrown, hleaves⟩ := of_request_error h
    exact .of_leaves hgrown hleaves

theorem keeps_of_requests (h : Requests d d') : Keeps d d' := by
  induction h with
  | none => exact .of_extends ⟨rfl, fun _ hx => hx⟩ fun _ _ hx => hx
  | next _ path removes request outcome run ih => exact ih.trans (keeps_of_request run)

/-- A request that succeeds puts its content at the path, saves what was there in a backup where
nothing was, and touches nothing else; so no content is lost by any requests, succeeding or
failing. -/
theorem request_loses_nothing :
    (∀ path removes d d' request written,
      Procedure.Runs (faultyTask path removes) (Request.task path request) d (.ok written) d' →
      ∃ content, request.Puts path d content ∧
        Replaced path content.toUTF8 d d' written.backup ∧
        d'.readFile path = .ok content.toUTF8 ∧
        ∀ old, d.readFile path = .ok old →
          ∃ backup, written.backup = some backup ∧ d'.readFile backup = .ok old) ∧
    ∀ d d', Requests d d' → Keeps d d' := by
  refine ⟨fun path removes d d' request written h => ?_, fun d d' => keeps_of_requests⟩
  obtain ⟨content, hputs, hreplaced⟩ := replaced_of_request h
  exact ⟨content, hputs, hreplaced, hreplaced.readFile, fun _ => hreplaced.readFile_backup⟩

theorem request_loses_nothing_oneFile :
    (∃ content, (Request.write "new").Puts ⟨"f"⟩ oneFile content ∧
      Replaced ⟨"f"⟩ content.toUTF8 oneFile oneFileReplaced (some ⟨"f.bak"⟩) ∧
      oneFileReplaced.readFile ⟨"f"⟩ = .ok content.toUTF8 ∧
      ∀ old, oneFile.readFile ⟨"f"⟩ = .ok old →
        ∃ backup, some ⟨"f.bak"⟩ = some backup ∧ oneFileReplaced.readFile backup = .ok old) ∧
    Keeps oneFile oneFileReplaced :=
  ⟨request_loses_nothing.1 _ _ _ _ _ _ runs_write_oneFile_ok,
    request_loses_nothing.2 _ _ (.next (.none _) _ _ _ _ runs_write_oneFile_ok)⟩

/-- Nothing is at a path that goes through a missing directory, but once the directory has been
created the path may lead to a file, and that file is backed up. -/
theorem backup_through_missing_directory :
    let path : Path := ⟨"x/../f"⟩
    let world : World := ⟨oneFile, ⟨0, 0⟩, 0, false⟩
    let run := runAlone (write path "new") world default
    world.disk.probe path = .ok false ∧
      run.1 = .ok ⟨path, some ⟨"x/../f.bak"⟩, 3⟩ ∧
      world.disk.entry? ["f.bak"] = none ∧
      run.2.1.disk.entry? ["f.bak"] = some (.file "old".toUTF8) := by
  decide +kernel

end ManyRequests

end SchemaCodegen.Output
