import SchemaCodegen.Proofs.Disk.Missing
import SchemaCodegen.Proofs.Metadata.Timeliness
import SchemaCodegen.Proofs.Repository.Document
import SchemaCodegen.Repository.Memory

/-!
# The document that a file holds

A repository in a file answers each call as one in memory does that holds the same document, as long
as no operation on the disk fails; when one fails, the call fails and the document is the one from
before (`File.Holds.of_answer`). A file that is missing holds the empty document. On the machine
anything may fail, but it never says of a file that is there that it is missing, and its new
identities belong to no temporary file (`unsteady`, `watched`).
-/

namespace SchemaCodegen

/-- The error of a result. -/
def errorOf? {ε α : Type} : Except ε α → Option ε
  | .ok _ => none
  | .error error => some error

namespace Machine

/-- The fault that a question is answered with. -/
def fault? : (call : Call) → Reply call → Option Disk.Fault
  | .createDirectories _, reply => errorOf? (reply : Except Disk.Fault Unit)
  | .write _ _, reply => errorOf? (reply : Except Disk.Fault Unit)
  | .read _, reply => errorOf? (reply : Except Disk.Fault ByteArray)
  | .probe _, reply => errorOf? (reply : Except Disk.Fault Bool)
  | .copy _ _, reply => errorOf? (reply : Except Disk.Fault Unit)
  | .rename _ _, reply => errorOf? (reply : Except Disk.Fault Unit)
  | .remove _, reply => errorOf? (reply : Except Disk.Fault Unit)
  | .list _, reply => errorOf? (reply : Except Disk.Fault (List (String × Bool)))
  | .workingDirectory, _ => none
  | .clock, _ => none
  | .freshId, _ => none
  | .freshIds _, _ => none
  | .isCancelled, _ => none

/-- Whether an operation on the disk failed. That a file which is to be read is missing is no
failure. -/
def isFailure : (call : Call) → Reply call → Bool
  | .read path, reply => (fault? (.read path) reply).any fun fault => fault ≠ .notFound
  | call, reply => (fault? call reply).isSome

end Machine

namespace Repository

open Disk (Fault Location PartlyWritten)
open Output (Leaves)

/-! ## Calls and replies -/

namespace Call

/-- The times in what is given are such as a clock can show. -/
def IsTimely : Call → Prop
  | .persist metadata => metadata.IsTimely
  | .markGenerated _ time => time.IsSupported
  | .recordHistory records => ∀ r ∈ records, r.generatedAt.IsSupported
  | _ => True

def keepsState : Call → Bool
  | .persist _ => false
  | .markGenerated _ _ => false
  | _ => true

def keepsHistory : Call → Bool
  | .recordHistory _ => false
  | _ => true

end Call

/-- The failure that a call was answered with. -/
def failure? : (call : Call) → Reply call → Option Failure
  | .load, reply => errorOf? (reply : Outcome Metadata)
  | .persist _, reply => errorOf? (reply : Outcome Unit)
  | .markGenerated _ _, reply => errorOf? (reply : Outcome Unit)
  | .recordHistory _, reply => errorOf? (reply : Outcome Unit)
  | .history _, reply => errorOf? (reply : Outcome (List HistoryRecord))

namespace Memory

variable {call : Call} {m : MetadataDocument}

theorem answer_markGenerated (keys : List String) (time : Instant) (m : MetadataDocument) :
    answer (.markGenerated keys time) m =
      match (do return { m with state := ← m.state.markAllGenerated keys time } :
        Outcome MetadataDocument) with
      | .ok document => (.ok (), document)
      | .error failure => (.error failure, m) := by
  rw [answer]
  cases m.state.markAllGenerated keys time <;> rfl

theorem isTimely_answer (hm : m.IsTimely) (hcall : call.IsTimely) :
    (answer call m).2.IsTimely := by
  cases call with
  | load => exact hm
  | history table => exact hm
  | persist metadata => exact ⟨hcall, hm.history⟩
  | markGenerated keys time =>
    rw [answer]
    cases hmark : m.state.markAllGenerated keys time with
    | ok metadata => exact ⟨hm.state.markAllGenerated hcall hmark, hm.history⟩
    | error failure => exact hm
  | recordHistory records =>
    refine ⟨hm.state, fun r hr => ?_⟩
    rcases List.mem_append.1 hr with hr | hr
    · exact hm.history r hr
    · exact hcall r hr

theorem state_answer (h : call.keepsState = true) : (answer call m).2.state = m.state := by
  cases call <;> first | rfl | cases h

theorem history_answer (h : call.keepsHistory = true) :
    (answer call m).2.history = m.history := by
  cases call with
  | markGenerated keys time =>
    rw [answer]
    cases m.state.markAllGenerated keys time <;> rfl
  | recordHistory records => cases h
  | _ => rfl

end Memory

/-! ## The file as it is held -/

namespace File

/-- A careful machine on which removing a file may fail as well. -/
def unsteady (path : Path) : machine.Step Disk
  | .freshId, d, id, d' => d.Unused (temporaryPath path id) ∧ d' = d
  | call, d, reply, d' => Output.faulty path false call d reply d'

/-- Such a machine says of no file that it is missing when it is there, and notes whether an
operation failed. -/
def watched (path : Path) : machine.Step (Disk × Bool) := fun call s reply s' =>
  unsteady path call s.1 reply s'.1 ∧
    (∀ p, call = .read p → Machine.fault? call reply = some .notFound →
      s.1.readFile p = .error .notFound) ∧
    s'.2 = (s.2 || Machine.isFailure call reply)

theorem watched_iff {path : Path} {call : Machine.Call} {reply : Machine.Reply call} {d d' : Disk}
    {b b' : Bool} : watched path call (d, b) reply (d', b') ↔
      unsteady path call d reply d' ∧
        (∀ p, call = .read p → Machine.fault? call reply = some .notFound →
          d.readFile p = .error .notFound) ∧
        b' = (b || Machine.isFailure call reply) := Iff.rfl

/-- The file holds a text of the document; a file that is missing holds the empty one. -/
inductive Holds (path : Path) (d : Disk) : MetadataDocument → Prop where
  | written {m : MetadataDocument} {text : String} (h : d.readFile path = .ok text.toUTF8)
    (htext : MetadataDocument.ofText text = .ok m) : Holds path d m
  | missing (h : d.Lacks path) : Holds path d .empty

variable {path : Path} {d d' : Disk} {b b' : Bool} {m document : MetadataDocument} {id : Uuid}
  {t : Location}

theorem Holds.isTimely (h : Holds path d m) : m.IsTimely := by
  cases h with
  | written _ htext => exact MetadataDocument.isTimely_of_ofText htext
  | missing _ => exact MetadataDocument.isTimely_empty

theorem Holds.of_makes (h : Holds path d m) (hmakes : d.Makes path.Above d') :
    Holds path d' m := by
  cases h with
  | written h htext =>
    obtain ⟨x, hnames, -⟩ := Disk.readFile_iff.1 h
    rw [hmakes.eq_of_names hnames]
    exact .written h htext
  | missing h => exact .missing (h.of_makes hmakes)

/-- The temporary file lies beside the file, under another name. -/
theorem siblings_of_fileName? {name : String} (hname : path.fileName? = some name) (id : Uuid) :
    (Path.splitExtension name).1 ++ "." ++ (id.simple ++ ".tmp") ≠ name ∧
      ∃ before, path.Siblings (temporaryPath path id) before name
        ((Path.splitExtension name).1 ++ "." ++ (id.simple ++ ".tmp")) := by
  have hsegment : Path.IsSegment (id.simple ++ ".tmp") := by
    have hdigits := Output.isSegment_simple id
    unfold Path.IsSegment at *
    simp [hdigits]
  exact Path.siblings_withExtension hname hsegment (by simp)

theorem siblings_temporaryPath (ht : d.Names (temporaryPath path id) t) :
    ∃ before name name', name ≠ ".." ∧ name' ≠ name ∧
      path.Siblings (temporaryPath path id) before name name' := by
  cases hname : path.fileName? with
  | none =>
    have hsame : temporaryPath path id = path := by
      unfold temporaryPath Path.withExtension
      simp only [hname]
    rw [hsame] at ht
    obtain ⟨directory, name, hname', -⟩ := Disk.fileName?_of_names ht
    rw [hname] at hname'
    cases hname'
  | some name =>
    obtain ⟨hne, before, hsiblings⟩ := siblings_of_fileName? hname id
    exact ⟨before, name, _, (Path.fileName?_eq_some_iff.1 hname).2, hne, hsiblings⟩

-- What the temporary path is does not matter from here on, and unfolding it takes long.
attribute [local irreducible] temporaryPath Path.realParent?

/-- A temporary file in a directory that is there, or none, changes nothing. -/
theorem Holds.of_leaves (h : Holds path d m) (ht : d.Names (temporaryPath path id) t)
    (hleaves : Leaves (· = temporaryPath path id) d d') : Holds path d' m := by
  cases h with
  | written h htext =>
    obtain ⟨x, hnames, hx⟩ := Disk.readFile_iff.1 h
    have hread : d'.readFile path = .ok _ :=
      Disk.readFile_iff.2 ⟨x, hnames.mono hleaves.toExtends, hleaves.entry_some hx⟩
    exact .written hread htext
  | missing h =>
    obtain ⟨before, name, name', hup, hne, hsiblings⟩ := siblings_temporaryPath ht
    obtain ⟨x, hawaits, hxt⟩ := h.awaits hsiblings hup hne ht
    have hnone : d'.entry? x = none := by
      rcases hleaves.entry x with hsame | ⟨-, p, content, rfl, hx, -⟩
      · rw [hsame]
        exact hawaits.entry_eq_none
      · exact absurd (hx.unique ht) hxt
    exact .missing (hawaits.mono hleaves.toExtends hnone).lacks

theorem Holds.of_partlyWritten (h : Holds path d m)
    (hunused : d.Unused (temporaryPath path id))
    (hpart : PartlyWritten (temporaryPath path id) d d') : Holds path d' m := by
  rcases hpart with rfl | ⟨part, hwrite⟩
  · exact h
  · obtain ⟨t, ht, -⟩ := Disk.writeFile_iff.1 hwrite
    exact h.of_leaves ht ((Leaves.refl _ d).write hunused rfl hwrite)

/-- What a file is read as. -/
theorem of_readText {text : Except Fault String}
    (h : Script.Runs (watched path) (Job.tryReadText path) (d, b) text (d', b')) :
    d' = d ∧ ((∃ bytes, d.readFile path = .ok bytes ∧ b' = b ∧ text = Job.textOf (.ok bytes)) ∨
      (d.readFile path = .error .notFound ∧ b' = b ∧ text = .error .notFound) ∨
      (b' = true ∧ ∃ fault, fault ≠ .notFound ∧ text = .error fault)) := by
  obtain ⟨read, hread, rfl⟩ := Job.runs_tryReadText.1 h
  obtain ⟨⟨htold, rfl⟩, habsent, hnoted⟩ := watched_iff.1 hread
  cases read with
  | ok bytes => exact ⟨rfl, .inl ⟨bytes, htold, hnoted.trans (Bool.or_false b), rfl⟩⟩
  | error fault =>
    refine ⟨rfl, .inr ?_⟩
    by_cases hfault : fault = .notFound
    · subst hfault
      exact .inl ⟨habsent path rfl rfl, hnoted.trans (Bool.or_false b), rfl⟩
    · have hfailed :
          Machine.isFailure (.read path) (.error fault : Except Fault ByteArray) = true :=
        decide_eq_true hfault
      rw [hfailed, Bool.or_true] at hnoted
      exact .inr ⟨hnoted, fault, hfault, rfl⟩

/-- The document is read as it is held, or reading failed. -/
theorem Holds.of_readDocument {outcome : Outcome MetadataDocument} (h : Holds path d m)
    (hruns : Procedure.Runs (watched path) (readDocument path) (d, b) outcome (d', b')) :
    d' = d ∧ (outcome = .ok m ∧ b' = b ∨ (∃ failure, outcome = .error failure) ∧ b' = true) := by
  rcases Procedure.runs_bind.1 hruns with ⟨failure, -, hnever⟩ | ⟨text, ⟨t, bt⟩, htry, hrest⟩
  · exact absurd hnever Procedure.not_runs_ofScript_error
  obtain ⟨rfl, hread⟩ := of_readText (Procedure.runs_ofScript_ok.1 htry)
  rcases hread with ⟨bytes, hbytes, rfl, rfl⟩ | ⟨hmissing, rfl, rfl⟩ | ⟨rfl, fault, hfault, rfl⟩
  · cases h with
    | missing h =>
      rw [h.readFile] at hbytes
      cases hbytes
    | @written _ text h htext =>
      rw [h] at hbytes
      cases hbytes
      rw [Job.textOf_eq_ok_iff.2 rfl] at hrest
      change Procedure.Runs _ (Procedure.ofOutcome (MetadataDocument.ofText text)) _ _ _ at hrest
      obtain ⟨rfl, heq⟩ := Procedure.runs_ofOutcome.1 hrest
      cases heq
      exact ⟨rfl, .inl ⟨htext, rfl⟩⟩
  · obtain ⟨rfl, heq⟩ := Procedure.runs_pure.1 hrest
    cases heq
    cases h with
    | missing h => exact ⟨rfl, .inl ⟨rfl, rfl⟩⟩
    | written h =>
      rw [h] at hmissing
      cases hmissing
  · have hthrow : Procedure.Runs (watched path) (throw (.io fault) : Job MetadataDocument) (t, true)
        outcome (d', b') := by
      cases fault <;> first | exact absurd rfl hfault | exact hrest
    obtain ⟨rfl, heq⟩ := Procedure.runs_throw.1 hthrow
    cases heq
    exact ⟨rfl, .inr ⟨⟨_, rfl⟩, rfl⟩⟩

theorem runs_tryReadText_missing (h : d.readFile path = .error .notFound) :
    Script.Runs (watched path) (Job.tryReadText path) (d, false) (.error .notFound) (d, false) :=
  Job.runs_tryReadText.2 ⟨.error .notFound,
    ⟨⟨trivial, rfl⟩, fun p hp _ => by cases hp; exact h, rfl⟩, rfl⟩

theorem runs_tryReadText_ok {text : String} (h : d.readFile path = .ok text.toUTF8) :
    Script.Runs (watched path) (Job.tryReadText path) (d, false) (.ok text) (d, false) :=
  Job.runs_tryReadText.2 ⟨.ok text.toUTF8, ⟨⟨h, rfl⟩, nofun, rfl⟩,
    (Job.textOf_eq_ok_iff.2 rfl).symm⟩

/-- A document that is held can be read. -/
theorem Holds.runs_readDocument (h : Holds path d m) :
    Procedure.Runs (watched path) (readDocument path) (d, false) (.ok m) (d, false) := by
  cases h with
  | missing h =>
    have hread := Procedure.runs_ofScript_ok.2 (runs_tryReadText_missing h.readFile)
    exact Procedure.runs_bind_ok.2 ⟨_, (d, false), hread, rfl, rfl⟩
  | @written _ text h htext =>
    have hread := Procedure.runs_ofScript_ok.2 (runs_tryReadText_ok h)
    exact Procedure.runs_bind_ok.2 ⟨_, (d, false), hread, Procedure.runs_ofOutcome.2 ⟨htext, rfl⟩⟩

/-- Whatever is in the file, a document that is read from it is timely. -/
theorem isTimely_of_readDocument
    (hruns : Procedure.Runs (watched path) (readDocument path) (d, b) (.ok m) (d', b')) :
    m.IsTimely := by
  obtain ⟨text, s, -, hrest⟩ := Procedure.runs_bind_ok.1 hruns
  cases text with
  | ok text =>
    obtain ⟨htext, -⟩ := Procedure.runs_ofOutcome.1 hrest
    exact MetadataDocument.isTimely_of_ofText htext
  | error fault =>
    cases fault with
    | notFound =>
      obtain ⟨hempty, -⟩ := Procedure.runs_pure.1 hrest
      cases hempty
      exact MetadataDocument.isTimely_empty
    | _ =>
      obtain ⟨hnever, -⟩ := Procedure.runs_throw.1 hrest
      cases hnever

/-- The new document was put in place. -/
theorem holds_of_replace (hdocument : document.IsTimely)
    (hruns : Procedure.Runs (watched path) (do
        let temporary := temporaryPath path (← Job.freshId)
        Job.write temporary document.toText.toUTF8
        Job.orElseRun (Job.rename temporary path) (Job.discard temporary)) (d, b) (.ok ())
      (d', b')) : b' = b ∧ Holds path d' document := by
  obtain ⟨id, ⟨t, bt⟩, hid, hrest⟩ := Procedure.runs_bind_ok.1 hruns
  obtain ⟨⟨hunused, rfl⟩, -, hnoted⟩ :=
    watched_iff.1 (Script.runs_call.1 (Procedure.runs_ofScript_ok.1 hid))
  obtain rfl : bt = b := hnoted.trans (Bool.or_false b)
  obtain ⟨_, ⟨stored, bs⟩, hwrite, hmove⟩ := Procedure.runs_bind_ok.1 hrest
  obtain ⟨hwrote, -, hnoted⟩ := watched_iff.1 (Script.runs_call.1 (Job.runs_ofDisk_ok.1 hwrite))
  obtain rfl : bs = bt := hnoted.trans (Bool.or_false bt)
  obtain ⟨hrename, -, hnoted⟩ := watched_iff.1
    (Script.runs_call.1 (Job.runs_ofDisk_ok.1 (Job.runs_orElseRun_ok.1 hmove)))
  obtain ⟨-, hread⟩ := Disk.SameFiles.of_rename hunused hwrote hrename
  exact ⟨hnoted.trans (Bool.or_false bs),
    .written hread (MetadataDocument.ofText_of_isTimely hdocument)⟩

/-- An operation failed, and the document is as before. -/
theorem Holds.of_replace_error {failure : Failure} (h : Holds path d m)
    (hruns : Procedure.Runs (watched path) (do
        let temporary := temporaryPath path (← Job.freshId)
        Job.write temporary document.toText.toUTF8
        Job.orElseRun (Job.rename temporary path) (Job.discard temporary)) (d, b) (.error failure)
      (d', b')) : b' = true ∧ Holds path d' m := by
  rcases Procedure.runs_bind_error.1 hruns with hnever | ⟨id, ⟨t, bt⟩, hid, hrest⟩
  · exact absurd hnever Procedure.not_runs_ofScript_error
  obtain ⟨⟨hunused, rfl⟩, -, -⟩ :=
    watched_iff.1 (Script.runs_call.1 (Procedure.runs_ofScript_ok.1 hid))
  rcases Procedure.runs_bind_error.1 hrest with hfailed | ⟨_, ⟨stored, bs⟩, hwrite, hmove⟩
  · obtain ⟨fault, -, hfailed⟩ := Job.runs_ofDisk_error.1 hfailed
    obtain ⟨hpart, -, hnoted⟩ := watched_iff.1 (Script.runs_call.1 hfailed)
    exact ⟨hnoted.trans (Bool.or_true bt), h.of_partlyWritten hunused hpart⟩
  obtain ⟨hwrote, -, -⟩ := watched_iff.1 (Script.runs_call.1 (Job.runs_ofDisk_ok.1 hwrite))
  obtain ⟨⟨u, bu⟩, hrename, hdiscard⟩ := Job.runs_orElseRun_error.1 hmove
  obtain ⟨fault, -, hrename⟩ := Job.runs_ofDisk_error.1 hrename
  obtain ⟨hsame, -, hnoted⟩ := watched_iff.1 (Script.runs_call.1 hrename)
  obtain rfl : bu = true := hnoted.trans (Bool.or_true bs)
  obtain rfl : u = stored := hsame
  obtain ⟨reply, hremove⟩ := Job.runs_discard.1 hdiscard
  obtain ⟨hremoved, -, hnoted⟩ := watched_iff.1 hremove
  have hdiscards : Script.Runs (Output.faulty path false) (Job.discard (temporaryPath path id))
      u () d' := Job.runs_discard.2 ⟨reply, hremoved⟩
  have hwritten : Leaves (· = temporaryPath path id) t u :=
    (Leaves.refl _ t).write hunused rfl hwrote
  have hleft : Leaves (· = temporaryPath path id) t d' :=
    (hwritten.mono fun _ => .inl).discard hunused (fun _ => rfl) hdiscards
  obtain ⟨x, hx, -⟩ := Disk.writeFile_iff.1 hwrote
  exact ⟨hnoted, h.of_leaves hx hleft⟩

/-- The directory of the document is created first, or creating it fails. -/
theorem creates_of_writeDocument {outcome : Outcome Unit}
    (hruns : Procedure.Runs (watched path) (writeDocument path document) (d, b) outcome (d', b')) :
    ((∃ failure, outcome = .error failure) ∧ b' = true ∧ d.Makes path.Above d') ∨
      ∃ between, d.Makes path.Above between ∧
        Procedure.Runs (watched path) (do
          let temporary := temporaryPath path (← Job.freshId)
          Job.write temporary document.toText.toUTF8
          Job.orElseRun (Job.rename temporary path) (Job.discard temporary)) (between, b) outcome
        (d', b') := by
  unfold writeDocument at hruns
  cases hparent : path.realParent? with
  | none =>
    rw [hparent] at hruns
    exact .inr ⟨d, .none, hruns⟩
  | some parent =>
    rw [hparent] at hruns
    have habove : ∀ q, q = parent ∨ parent.Above q → path.Above q :=
      fun _ => Path.above_of_realParent? hparent
    rcases Procedure.runs_bind.1 hruns with ⟨failure, rfl, hfailed⟩ |
      ⟨_, ⟨between, bt⟩, hparents, hrest⟩
    · obtain ⟨fault, -, hfailed⟩ := Job.runs_ofDisk_error.1 hfailed
      obtain ⟨hmakes, -, hnoted⟩ := watched_iff.1 (Script.runs_call.1 hfailed)
      exact .inl ⟨⟨failure, rfl⟩, hnoted.trans (Bool.or_true b), Disk.Makes.mono hmakes habove⟩
    · obtain ⟨hcreated, -, hnoted⟩ :=
        watched_iff.1 (Script.runs_call.1 (Job.runs_ofDisk_ok.1 hparents))
      obtain rfl : bt = b := hnoted.trans (Bool.or_false b)
      exact .inr ⟨between, (Disk.Makes.of_createDirectories hcreated).mono habove, hrest⟩

theorem holds_of_writeDocument (hdocument : document.IsTimely)
    (hruns : Procedure.Runs (watched path) (writeDocument path document) (d, b) (.ok ())
      (d', b')) : b' = b ∧ Holds path d' document := by
  rcases creates_of_writeDocument hruns with ⟨⟨failure, hnever⟩, -⟩ | ⟨between, -, hrest⟩
  · cases hnever
  · exact holds_of_replace hdocument hrest

theorem Holds.of_writeDocument_error {failure : Failure} (h : Holds path d m)
    (hruns : Procedure.Runs (watched path) (writeDocument path document) (d, b) (.error failure)
      (d', b')) : b' = true ∧ Holds path d' m := by
  rcases creates_of_writeDocument hruns with ⟨-, hb, hmakes⟩ | ⟨between, hmakes, hrest⟩
  · exact ⟨hb, h.of_makes hmakes⟩
  · exact (h.of_makes hmakes).of_replace_error hrest

/-- A change that is refused leaves the document, as does one of which an operation failed. -/
theorem Holds.of_changeDocument {outcome : Outcome Unit}
    {change : MetadataDocument → Outcome MetadataDocument} (h : Holds path d m)
    (hchange : ∀ document, change m = .ok document → document.IsTimely)
    (hruns : Procedure.Runs (watched path) (changeDocument path change) (d, b) outcome (d', b')) :
    (b' = b ∧ ∃ document, change m = .ok document ∧ outcome = .ok () ∧ Holds path d' document) ∨
      (b' = b ∧ ∃ failure, change m = .error failure ∧ outcome = .error failure ∧ d' = d) ∨
      (b' = true ∧ (∃ failure, outcome = .error failure) ∧ Holds path d' m) := by
  rcases Procedure.runs_bind.1 hruns with ⟨failure, rfl, hread⟩ | ⟨document, ⟨t, bt⟩, hread, hrest⟩
  · obtain ⟨rfl, ⟨hok, -⟩ | ⟨-, rfl⟩⟩ := h.of_readDocument hread
    · cases hok
    · exact .inr (.inr ⟨rfl, ⟨failure, rfl⟩, h⟩)
  obtain ⟨rfl, ⟨hok, rfl⟩ | ⟨⟨failure, hfailed⟩, -⟩⟩ := h.of_readDocument hread
  · cases hok
    rcases Procedure.runs_bind.1 hrest with ⟨failure, rfl, hrefused⟩ |
      ⟨changed, s, hchanges, hwrite⟩
    · obtain ⟨hrefuses, heq⟩ := Procedure.runs_ofOutcome.1 hrefused
      cases heq
      exact .inr (.inl ⟨rfl, failure, hrefuses, rfl, rfl⟩)
    · obtain ⟨hchanged, rfl⟩ := Procedure.runs_ofOutcome.1 hchanges
      cases outcome with
      | ok _ =>
        obtain ⟨hb, hholds⟩ := holds_of_writeDocument (hchange changed hchanged) hwrite
        exact .inl ⟨hb, changed, hchanged, rfl, hholds⟩
      | error failure =>
        obtain ⟨hb, hholds⟩ := h.of_writeDocument_error hwrite
        exact .inr (.inr ⟨hb, ⟨failure, rfl⟩, hholds⟩)
  · cases hfailed

/-- A change that is refused ends there. -/
theorem Holds.runs_changeDocument_refused {failure : Failure}
    {change : MetadataDocument → Outcome MetadataDocument} (h : Holds path d m)
    (hchange : change m = .error failure) :
    Procedure.Runs (watched path) (changeDocument path change) (d, false) (.error failure)
      (d, false) := by
  refine Procedure.runs_bind.2 (.inr ⟨m, (d, false), h.runs_readDocument, ?_⟩)
  exact Procedure.runs_bind.2 (.inl ⟨failure, rfl, Procedure.runs_ofOutcome.2 ⟨hchange, rfl⟩⟩)

/-- A change that is made ends with the writing. -/
theorem Holds.runs_changeDocument {outcome : Outcome Unit}
    {change : MetadataDocument → Outcome MetadataDocument} (h : Holds path d m)
    (hchange : change m = .ok document)
    (hwrite : Procedure.Runs (watched path) (writeDocument path document) (d, false) outcome
      (d', b')) :
    Procedure.Runs (watched path) (changeDocument path change) (d, false) outcome (d', b') := by
  refine Procedure.runs_bind.2 (.inr ⟨m, (d, false), h.runs_readDocument, ?_⟩)
  exact Procedure.runs_bind.2
    (.inr ⟨document, (d, false), Procedure.runs_ofOutcome.2 ⟨hchange, rfl⟩, hwrite⟩)

section Answers

variable {α : Type}

/-- What is read off the document. -/
theorem Holds.of_read {f : MetadataDocument → α} {outcome : Outcome α} (h : Holds path d m)
    (hruns : Procedure.Runs (watched path) (do return f (← readDocument path)) (d, b) outcome
      (d', b')) :
    d' = d ∧ (b' = b ∧ outcome = .ok (f m) ∨ b' = true ∧ ∃ failure, outcome = .error failure) := by
  rcases Procedure.runs_bind.1 hruns with ⟨failure, rfl, hread⟩ | ⟨document, s, hread, hdone⟩
  · obtain ⟨rfl, ⟨hok, -⟩ | ⟨-, hb⟩⟩ := h.of_readDocument hread
    · cases hok
    · exact ⟨rfl, .inr ⟨hb, failure, rfl⟩⟩
  · obtain ⟨rfl, rfl⟩ := Procedure.runs_pure.1 hdone
    obtain ⟨rfl, ⟨hok, hb⟩ | ⟨⟨failure, hfailed⟩, -⟩⟩ := h.of_readDocument hread
    · cases hok
      exact ⟨rfl, .inl ⟨hb, rfl⟩⟩
    · cases hfailed

/-- A change that is never refused. -/
theorem Holds.of_change {f : MetadataDocument → MetadataDocument} {outcome : Outcome Unit}
    (h : Holds path d m) (hf : (f m).IsTimely)
    (hruns : Procedure.Runs (watched path) (changeDocument path fun d => .ok (f d)) (d, b) outcome
      (d', b')) :
    (b' = b ∧ outcome = .ok () ∧ Holds path d' (f m)) ∨
      (b' = true ∧ (∃ failure, outcome = .error failure) ∧ Holds path d' m) := by
  have hchange : ∀ document, (.ok (f m) : Outcome MetadataDocument) = .ok document →
      document.IsTimely := by
    rintro document ⟨⟩
    exact hf
  rcases h.of_changeDocument hchange hruns with ⟨hb, document, hchanges, houtcome, hholds⟩ |
    ⟨-, failure, hrefused, -⟩ | hfailed
  · cases hchanges
    exact .inl ⟨hb, houtcome, hholds⟩
  · cases hrefused
  · exact .inr hfailed

/-- A call is answered as by a repository in memory that holds the document, or an operation on the
disk failed, and then the call fails and the document is held as before. -/
theorem Holds.of_answer {call : Call} {reply : Reply call} (h : Holds path d m)
    (hcall : call.IsTimely)
    (hruns : Script.Runs (watched path) (answer path call) (d, false) reply (d', b')) :
    (b' = false ∧ reply = (Memory.answer call m).1 ∧ Holds path d' (Memory.answer call m).2) ∨
      (b' = true ∧ (failure? call reply).isSome ∧ Holds path d' m) := by
  have htimely := Memory.isTimely_answer h.isTimely hcall
  cases call with
  | load =>
    obtain ⟨rfl, ⟨hb, rfl⟩ | ⟨hb, failure, rfl⟩⟩ := h.of_read hruns
    · exact .inl ⟨hb, rfl, h⟩
    · exact .inr ⟨hb, rfl, h⟩
  | history table =>
    obtain ⟨rfl, ⟨hb, rfl⟩ | ⟨hb, failure, rfl⟩⟩ :=
      h.of_read (f := fun document => HistoryRecord.select document.history table) hruns
    · exact .inl ⟨hb, rfl, h⟩
    · exact .inr ⟨hb, rfl, h⟩
  | persist metadata =>
    rcases h.of_change htimely hruns with ⟨hb, rfl, hholds⟩ | ⟨hb, ⟨failure, rfl⟩, hholds⟩
    · exact .inl ⟨hb, rfl, hholds⟩
    · exact .inr ⟨hb, rfl, hholds⟩
  | recordHistory records =>
    rcases h.of_change htimely hruns with ⟨hb, rfl, hholds⟩ | ⟨hb, ⟨failure, rfl⟩, hholds⟩
    · exact .inl ⟨hb, rfl, hholds⟩
    · exact .inr ⟨hb, rfl, hholds⟩
  | markGenerated keys time =>
    have hchange : ∀ document, (do return { m with state := ← m.state.markAllGenerated keys time } :
        Outcome MetadataDocument) = .ok document → document.IsTimely := by
      intro document hmarks
      rw [Memory.answer_markGenerated, hmarks] at htimely
      exact htimely
    rcases h.of_changeDocument hchange hruns with ⟨hb, document, hmarks, rfl, hholds⟩ |
      ⟨hb, failure, hrefused, rfl, rfl⟩ | ⟨hb, ⟨failure, rfl⟩, hholds⟩
    · rw [Memory.answer_markGenerated, hmarks]
      exact .inl ⟨hb, rfl, hholds⟩
    · rw [Memory.answer_markGenerated, hrefused]
      exact .inl ⟨hb, rfl, h⟩
    · exact .inr ⟨hb, rfl, hholds⟩

/-- Stamps that were put are in the file, whatever the file held before. -/
theorem of_markGenerated_ok {keys : List String} {time : Instant} (htime : time.IsSupported)
    (hruns : Script.Runs (watched path) (answer path (.markGenerated keys time)) (d, b) (.ok ())
      (d', b')) :
    ∃ before after : MetadataDocument,
      before.state.markAllGenerated keys time = .ok after.state ∧ Holds path d' after := by
  obtain ⟨before, ⟨t, bt⟩, hread, hrest⟩ := Procedure.runs_bind_ok.1 hruns
  obtain ⟨after, s, hchange, hwrite⟩ := Procedure.runs_bind_ok.1 hrest
  obtain ⟨hmarked, -⟩ := Procedure.runs_ofOutcome.1 hchange
  have htimely := isTimely_of_readDocument hread
  dsimp only at hmarked
  cases hmarks : before.state.markAllGenerated keys time with
  | error failure =>
    rw [hmarks] at hmarked
    cases hmarked
  | ok metadata =>
    rw [hmarks] at hmarked
    cases hmarked
    have hafter : MetadataDocument.IsTimely { before with state := metadata } :=
      ⟨htimely.state.markAllGenerated htime hmarks, htimely.history⟩
    exact ⟨before, _, hmarks, (holds_of_writeDocument hafter hwrite).2⟩

end Answers

end File
end Repository
end SchemaCodegen
