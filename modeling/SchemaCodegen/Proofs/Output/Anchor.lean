import SchemaCodegen.Proofs.Output.Preservation
import SchemaCodegen.Proofs.Text.Occurrence

/-!
# Which place an anchor means

What an update does where nothing fails (`unhindered`), by the places at which its anchor stands in
the text of the file (`update_resolves`): nowhere, and the anchor is not found; at two places that
do not overlap, and it is ambiguous; and otherwise the first place is replaced. There may be more
places that overlap the first one, and of these nothing is said to the caller
(`update_of_overlapping`).
-/

namespace SchemaCodegen.Output

open Disk (Fault Grown)

/-- A question is answered without a fault, and by a caller who still waits. -/
def Works : (call : Machine.Call) → Machine.Reply call → Prop
  | .createDirectories _, reply => ∃ a, (reply : Except Fault Unit) = .ok a
  | .write _ _, reply => ∃ a, (reply : Except Fault Unit) = .ok a
  | .read _, reply => ∃ a, (reply : Except Fault ByteArray) = .ok a
  | .probe _, reply => ∃ a, (reply : Except Fault Bool) = .ok a
  | .copy _ _, reply => ∃ a, (reply : Except Fault Unit) = .ok a
  | .rename _ _, reply => ∃ a, (reply : Except Fault Unit) = .ok a
  | .isCancelled, reply => reply = false
  | _, _ => True

/-- A machine that writes a path, and on which nothing fails. -/
def unhindered (path : Path) : machine.Step Disk := fun call d reply d' =>
  faulty path true call d reply d' ∧ Works call reply

def unhinderedTask (path : Path) : writing.Step Disk :=
  Interface.Step.sum (unhindered path) fun _ d _ d' => d' = d

/-- There is a limit to the names that are tried for a backup. -/
def noFreeBackup (path : Path) : Failure :=
  .internal ("No free backup name for " ++ path.text)

/-! ## What may fail where nothing fails -/

section Failures

variable {path p temporary : Path} {d d' : Disk} {α : Type} {allowed : Failure → Prop}

theorem failsOnly_ofDisk {script : Script machine (Except Fault α)}
    (works : ∀ d fault d', ¬ script.Runs (unhindered path) d (.error fault) d') :
    Procedure.FailsOnly (unhindered path) allowed (Job.ofDisk script) := by
  intro d failure d' h
  obtain ⟨fault, -, hscript⟩ := Job.runs_ofDisk_error.1 h
  exact absurd hscript (works d fault d')

theorem failsOnly_probe : Procedure.FailsOnly (unhindered path) allowed (Job.probe p) := by
  refine failsOnly_ofDisk fun d fault d' h => ?_
  obtain ⟨-, a, ha⟩ := Script.runs_call.1 h
  cases ha

theorem failsOnly_orElseRun {job : Job α} {cleanUp : Script machine Unit}
    (h : Procedure.FailsOnly (unhindered path) allowed job) :
    Procedure.FailsOnly (unhindered path) allowed (Job.orElseRun job cleanUp) := by
  intro d failure d' hruns
  obtain ⟨t, hjob, -⟩ := Job.runs_orElseRun_error.1 hruns
  exact h d failure t hjob

theorem failsOnly_checkCancelled :
    Procedure.FailsOnly (unhindered path) allowed (checkCancelled p) := by
  intro d failure d' h
  unfold checkCancelled at h
  rcases Procedure.runs_bind_error.1 h with hask | ⟨isCancelled, t, hask, hrest⟩
  · exact absurd hask Procedure.not_runs_ofScript_error
  · obtain ⟨-, rfl⟩ := Script.runs_call.1 (Procedure.runs_ofScript_ok.1 hask)
    cases (Procedure.runs_pure.1 hrest).1

theorem failsOnly_freeNumberedBackup (stamp : String) (tries n : Nat) :
    Procedure.FailsOnly (unhindered path) (· = noFreeBackup p)
      (freeNumberedBackup p stamp tries n) := by
  induction tries generalizing n with
  | zero => exact .throw rfl
  | succ tries ih =>
    refine .bind failsOnly_probe fun found => ?_
    cases found with
    | false => exact .pure _
    | true => exact ih (n + 1)

theorem failsOnly_freeBackup :
    Procedure.FailsOnly (unhindered path) (· = noFreeBackup p) (freeBackup p) := by
  refine .bind failsOnly_probe fun found => ?_
  cases found with
  | false => exact .pure _
  | true =>
    refine .bind (.ofScript _) fun now => .bind failsOnly_probe fun found => ?_
    cases found with
    | false => exact .pure _
    | true => exact failsOnly_freeNumberedBackup _ _ _

theorem failsOnly_backUpExisting :
    Procedure.FailsOnly (unhindered path) (· = noFreeBackup p) (backUpExisting p) := by
  refine .bind failsOnly_probe fun found => ?_
  cases found with
  | false => exact .pure _
  | true =>
    rw [if_pos rfl, map_eq_pure_bind]
    refine .bind (.bind failsOnly_freeBackup fun backup => ?_) fun _ => .pure _
    refine .bind (failsOnly_orElseRun (failsOnly_ofDisk fun d fault d' h => ?_)) fun _ => .pure _
    obtain ⟨-, a, ha⟩ := Script.runs_call.1 h
    cases ha

theorem failsOnly_install (content : ByteArray) :
    Procedure.FailsOnly (unhindered path) (· = noFreeBackup p) (install temporary p content) := by
  refine .bind (failsOnly_ofDisk fun d fault d' h => ?_) fun _ =>
    .bind failsOnly_backUpExisting fun backup => .bind (failsOnly_orElseRun ?_) fun _ => .pure _
  · obtain ⟨-, a, ha⟩ := Script.runs_call.1 h
    cases ha
  · refine .bind failsOnly_checkCancelled fun _ => failsOnly_ofDisk fun d fault d' h => ?_
    obtain ⟨-, a, ha⟩ := Script.runs_call.1 h
    cases ha

-- What the parent is does not matter here, and unfolding it takes long.
attribute [local irreducible] Path.realParent?

theorem failsOnly_createParents :
    Procedure.FailsOnly (unhindered path) allowed (createParents p) := by
  unfold createParents
  cases p.realParent? with
  | none => exact .pure _
  | some parent =>
    refine failsOnly_ofDisk fun d fault d' h => ?_
    obtain ⟨-, a, ha⟩ := Script.runs_call.1 h
    cases ha

theorem failsOnly_replaceContent (content : String) :
    Procedure.FailsOnly (unhindered path) (· = noFreeBackup p) (replaceContent p content) :=
  .bind failsOnly_checkCancelled fun _ => .bind failsOnly_createParents fun _ =>
    .bind (.ofScript _) fun _ => failsOnly_orElseRun (failsOnly_install _)

end Failures

/-! ## Updates -/

def anchorSubject (path : Path) (anchor : String) : String :=
  "Anchor text '" ++ anchor ++ "' in " ++ path.text

/-- How an update ends by the places of its anchor in the text of the file. -/
structure Resolves (path : Path) (anchor replacement text : String) (d : Disk)
    (outcome : Outcome Written) (d' : Disk) : Prop where
  /-- The anchor stands nowhere, and nothing is changed. -/
  missing : (∀ n, ¬ Text.OccursAt anchor.toList text.toList n) →
    outcome = .error (.notFound (anchorSubject path anchor)) ∧ d' = d
  /-- Two places do not overlap, and nothing is changed. -/
  ambiguous : ∀ m n, Text.OccursAt anchor.toList text.toList m →
    Text.OccursAt anchor.toList text.toList n → m + anchor.length ≤ n →
    outcome = .error (.ambiguous (anchorSubject path anchor) (Text.count text anchor)) ∧
      2 ≤ Text.count text anchor ∧ d' = d
  /-- There is a first place, and all others overlap it. -/
  replaced : ∀ n, Text.OccursAt anchor.toList text.toList n →
    (∀ m, Text.OccursAt anchor.toList text.toList m → n ≤ m ∧ m < n + anchor.length) →
    (outcome = .error (noFreeBackup path) ∧ Grown path.Above d d') ∨
      ∃ written content, outcome = .ok written ∧
        content = String.ofList (text.toList.take n ++ replacement.toList ++
          text.toList.drop (n + anchor.length)) ∧
        Replaced path content.toUTF8 d d' written.backup

section Updates

variable {path : Path} {anchor replacement text : String} {d d' : Disk}
  {outcome : Outcome Written}

theorem of_tryReadText_unhindered {reply : Except Fault String}
    (hread : d.readFile path = .ok text.toUTF8)
    (h : Script.Runs (unhindered path) (Job.tryReadText path) d reply d') :
    d' = d ∧ reply = .ok text := by
  obtain ⟨read, hstep, rfl⟩ := Job.runs_tryReadText.1 h
  obtain ⟨⟨htold, rfl⟩, bytes, rfl⟩ := hstep
  have htrue : d'.readFile path = .ok bytes := htold
  exact ⟨rfl, Job.textOf_eq_ok_iff.2 (htrue.symm.trans hread)⟩

/-- An update counts places that do not overlap, and writes if it counts one. -/
theorem of_replaceAnchor_unhindered (hread : d.readFile path = .ok text.toUTF8)
    (h : Procedure.Runs (unhindered path) (replaceAnchor path anchor replacement) d outcome d') :
    (Text.count text anchor = 0 ∧ outcome = .error (.notFound (anchorSubject path anchor)) ∧
        d' = d) ∨
      (Text.count text anchor = 1 ∧
        Procedure.Runs (unhindered path)
          (replaceContent path (Text.replaceFirst text anchor replacement)) d outcome d') ∨
      (2 ≤ Text.count text anchor ∧
        outcome = .error (.ambiguous (anchorSubject path anchor) (Text.count text anchor)) ∧
        d' = d) := by
  unfold replaceAnchor at h
  rcases Procedure.runs_bind.1 h with ⟨failure, -, htry⟩ | ⟨read, t, htry, hrest⟩
  · exact absurd htry Procedure.not_runs_ofScript_error
  obtain ⟨rfl, rfl⟩ := of_tryReadText_unhindered hread (Procedure.runs_ofScript_ok.1 htry)
  dsimp only at hrest
  split at hrest
  · next hnone =>
    obtain ⟨rfl, rfl⟩ := Procedure.runs_throw.1 hrest
    exact .inl ⟨hnone, rfl, rfl⟩
  · next hone => exact .inr (.inl ⟨hone, hrest⟩)
  · next hnotNone hnotOne =>
    obtain ⟨rfl, rfl⟩ := Procedure.runs_throw.1 hrest
    refine .inr (.inr ⟨?_, rfl, rfl⟩)
    have hzero : Text.count text anchor ≠ 0 := hnotNone
    have hone : Text.count text anchor ≠ 1 := hnotOne
    omega

theorem replaceContent_resolves {content : String}
    (h : Procedure.Runs (unhindered path) (replaceContent path content) d outcome d') :
    (outcome = .error (noFreeBackup path) ∧ Grown path.Above d d') ∨
      ∃ written, outcome = .ok written ∧ Replaced path content.toUTF8 d d' written.backup := by
  have hfaulty : Procedure.Runs (faulty path true) (replaceContent path content) d outcome d' :=
    h.mono fun _ _ _ _ hstep => hstep.1
  cases outcome with
  | error failure =>
    obtain rfl := failsOnly_replaceContent content d failure d' h
    obtain ⟨between, hmakes, hleaves⟩ := of_replaceContent_error hfaulty
    exact .inl ⟨rfl, hleaves.grown (fun _ => Bool.noConfusion) hmakes.grown⟩
  | ok written =>
    obtain ⟨between, id, hgrown, hunused, hinstall⟩ := of_replaceContent_ok hfaulty
    exact .inr ⟨written, rfl, replaced_of_install hgrown hunused hinstall⟩

theorem checkPath_of_readFile {content : ByteArray} (hread : d.readFile path = .ok content)
    (hopen : path.isProtected = false) : checkPath path = .ok () := by
  have hfilled : path.isEmpty = false := by
    rw [Bool.eq_false_iff]
    intro hempty
    obtain ⟨x, ⟨directory, name, hlocate, -, -⟩, -⟩ := Disk.readFile_iff.1 hread
    rw [Disk.locate_eq, Disk.pathFault?, if_pos hempty] at hlocate
    cases hlocate
  rw [checkPath, hfilled, Path.ensureWritable, hopen]
  rfl

/-- An update of a text file, where nothing fails, goes by the places at which its anchor stands:
it succeeds if there is a first place that all others overlap. -/
theorem update_resolves (hread : d.readFile path = .ok text.toUTF8)
    (hopen : path.isProtected = false) (hanchor : anchor ≠ "")
    (h : Procedure.Runs (unhinderedTask path) (update path anchor replacement) d outcome d') :
    Resolves path anchor replacement text d outcome d' := by
  have hpiece : anchor.toList ≠ [] := by simpa using hanchor
  have hjob : Procedure.Runs (unhindered path) (replaceAnchor path anchor replacement) d outcome
      d' := by
    unfold update at h
    rw [checkPath_of_readFile hread hopen] at h
    rcases Procedure.runs_bind.1 h with ⟨failure, -, hcheck⟩ | ⟨_, t, hcheck, hrest⟩
    · cases (Procedure.runs_ofOutcome.1 hcheck).1
    · obtain ⟨-, rfl⟩ := Procedure.runs_ofOutcome.1 hcheck
      dsimp only at hrest
      rw [if_neg (by simpa using hanchor)] at hrest
      exact (runs_locked_iff fun _ _ _ => and_iff_left trivial).1 hrest
  have hlength : anchor.length = anchor.toList.length := String.length_toList.symm
  have hzero : Text.count text anchor = 0 ↔ ∀ n, ¬ Text.OccursAt anchor.toList text.toList n :=
    Text.countFrom_eq_zero_iff hpiece
  have hone : Text.count text anchor = 1 ↔ ∃ n, Text.OccursAt anchor.toList text.toList n ∧
      ∀ m, Text.OccursAt anchor.toList text.toList m → n ≤ m ∧ m < n + anchor.length := by
    rw [hlength]
    exact Text.countFrom_eq_one_iff hpiece
  have htwo : 2 ≤ Text.count text anchor ↔ ∃ m n, Text.OccursAt anchor.toList text.toList m ∧
      Text.OccursAt anchor.toList text.toList n ∧ m + anchor.length ≤ n := by
    rw [hlength]
    exact Text.two_le_countFrom_iff hpiece
  have hends := of_replaceAnchor_unhindered hread hjob
  refine ⟨fun hnowhere => ?_, fun m n hm hn hapart => ?_, fun n hn hoverlap => ?_⟩
  · have hcount := hzero.2 hnowhere
    rcases hends with ⟨-, hend⟩ | ⟨hcount', -⟩ | ⟨hcount', -⟩
    · exact hend
    · omega
    · omega
  · have hcount := htwo.2 ⟨m, n, hm, hn, hapart⟩
    rcases hends with ⟨hcount', -⟩ | ⟨hcount', -⟩ | ⟨-, hend, hsame⟩
    · omega
    · omega
    · exact ⟨hend, hcount, hsame⟩
  · have hcount := hone.2 ⟨n, hn, hoverlap⟩
    rcases hends with ⟨hcount', -⟩ | ⟨-, hwrite⟩ | ⟨hcount', -⟩
    · omega
    · rw [Text.replaceFirst_eq hpiece hn fun m hm => (hoverlap m hm).1] at hwrite
      rcases replaceContent_resolves hwrite with hfull | ⟨written, rfl, hreplaced⟩
      · exact .inl hfull
      · exact .inr ⟨written, _, rfl, rfl, hreplaced⟩
    · omega

theorem update_resolves_missing :
    Resolves ⟨"f"⟩ "x" "new" "old" oneFile (.error (.notFound (anchorSubject ⟨"f"⟩ "x")))
      oneFile := by
  have hread : oneFile.readFile ⟨"f"⟩ = .ok "old".toUTF8 := by decide
  refine update_resolves hread (by decide) (by decide) ?_
  have hvalid : checkPath ⟨"f"⟩ = .ok () := by decide
  have htry : Script.Runs (unhindered ⟨"f"⟩) (Job.tryReadText ⟨"f"⟩) oneFile (.ok "old")
      oneFile :=
    Job.runs_tryReadText.2 ⟨.ok "old".toUTF8, ⟨⟨hread, rfl⟩, _, rfl⟩,
      (Job.textOf_eq_ok_iff.2 rfl).symm⟩
  refine Procedure.runs_bind.2 (.inr ⟨(), oneFile, ⟨hvalid, rfl⟩, ?_⟩)
  refine (runs_locked_iff fun _ _ _ => and_iff_left trivial).2 ?_
  exact Procedure.runs_bind.2
    (.inr ⟨.ok "old", oneFile, Procedure.runs_ofScript_ok.2 htry, rfl, rfl⟩)

/-- An anchor at two places that overlap is replaced at the first of them. -/
theorem update_of_overlapping :
    let disk : Disk := (Disk.empty []).insert ["f"] (.file "aaa".toUTF8)
    let run := runAlone (update ⟨"f"⟩ "aa" "b") ⟨disk, ⟨0, 0⟩, 0, false⟩ default
    Text.OccursAt "aa".toList "aaa".toList 0 ∧ Text.OccursAt "aa".toList "aaa".toList 1 ∧
      run.1 = .ok ⟨⟨"f"⟩, some ⟨"f.bak"⟩, 2⟩ ∧
      run.2.1.disk.readFile ⟨"f"⟩ = .ok "ba".toUTF8 := by
  decide

end Updates

end SchemaCodegen.Output
