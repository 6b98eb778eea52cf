import SchemaCodegen.Proofs.Output.Preservation
import SchemaCodegen.Proofs.Script.Moments

/-!
# A writing that is under way

What a writing has done to the disk at each of its moments. Until the temporary file is moved over
the path, there are only new directories above the path and new files beside it (`Underway`), and
that move changes one file at most (`Touched`). So it is for the parts of a writing, one after the
other, and for a whole request (`through_request`), whatever fails and whoever goes away.
-/

namespace SchemaCodegen.Output

open Disk (Extends Grown Location)

/-- The paths of the files that a writing creates beside its own. -/
inductive Beside (path : Path) : Path → Prop where
  | temporary (id : Uuid) : Beside path (temporaryPath path id)
  | plain : Beside path (plainBackup path)
  | stamped (t : Instant) : Beside path (stampedBackup path t.stamp)
  | numbered (t : Instant) (n : Nat) : Beside path (numberedBackup path t.stamp n)

/-- There are new directories above the path and new files beside it, and nothing else is new. -/
def Underway (path : Path) (d e : Disk) : Prop :=
  ∃ between, Grown path.Above d between ∧ Leaves (Beside path) between e

/-- A writing is under way, or it has come to the file of its path. -/
inductive Touched (path : Path) (d e : Disk) : Prop where
  | underway (h : Underway path d e)
  | moved {before : Disk} {x : Location} (h : Underway path d before) (names : e.Names path x)
      (others : ∀ z, z ≠ x → e.entry? z = before.entry? z)

theorem Underway.refl (path : Path) (d : Disk) : Underway path d d :=
  ⟨d, .refl _ d, .refl _ d⟩

theorem Underway.of_grown {path : Path} {d e : Disk} (h : Grown path.Above d e) :
    Underway path d e :=
  ⟨e, h, .refl _ e⟩

/-! ## Moments of jobs -/

section Jobs

variable {σ α : Type} {step : machine.Step σ} {during : σ → Prop} {after : Outcome α → σ → Prop}
  {s : σ}

theorem through_ofDisk {script : Script machine (Except Disk.Fault α)}
    (h : script.Through step during (fun reply => after (Disk.outcome reply)) s) :
    (Job.ofDisk script).Through step during after s :=
  Script.Through.bind h fun _ _ hafter => hafter

theorem through_orElseRun {job : Job α} {cleanUp : Script machine Unit}
    {between : Outcome α → σ → Prop} (hjob : job.Through step during between s)
    (hok : ∀ a t, between (.ok a) t → after (.ok a) t)
    (herror : ∀ failure t, between (.error failure) t →
      cleanUp.Through step during (fun _ => after (.error failure)) t) :
    (Job.orElseRun job cleanUp).Through step during after s := by
  refine Script.Through.bind hjob fun outcome t hbetween => ?_
  cases outcome with
  | ok a => exact hok a t hbetween
  | error failure => exact Script.Through.bind (herror failure t hbetween) fun _ _ h => h

theorem through_discard {p : Path} {after : Unit → σ → Prop} (hs : during s)
    (h : ∀ t, (Job.discard p).Runs step s () t → after () t) :
    (Job.discard p).Through step during after s :=
  ⟨hs, fun reply t hstep => h t (Job.runs_discard.2 ⟨reply, hstep⟩)⟩

end Jobs

/-! ## Questions that leave the disk alone -/

/-- The answer does not change the disk. -/
def Quiet : Machine.Call → Prop
  | .createDirectories _ | .write _ _ | .copy _ _ | .rename _ _ | .remove _ => False
  | _ => True

section Questions

variable {path p : Path} {removes : Bool} {d d' : Disk} {α : Type}

theorem eq_of_faulty_quiet {call : Machine.Call} {reply : Machine.Reply call} (hquiet : Quiet call)
    (h : faulty path removes call d reply d') : d' = d := by
  cases call with
  | read p => exact h.2
  | probe p => exact h.2
  | list p => exact h.2
  | freshId => exact h.2
  | workingDirectory => exact h
  | clock => exact h
  | freshIds keys => exact h
  | isCancelled => exact h
  | createDirectories p => exact absurd hquiet id
  | write p content => exact absurd hquiet id
  | copy p q => exact absurd hquiet id
  | rename p q => exact absurd hquiet id
  | remove p => exact absurd hquiet id

theorem through_quiet {job : Job α} {during : Disk → Prop} (hquiet : job.Asks Quiet)
    (hd : during d) : job.Through (faulty path removes) during
      (fun outcome e => e = d ∧ job.Runs (faulty path removes) d outcome e) d := by
  have hsame := Procedure.Through.of_asks hquiet
    fun _ _ t hcall (hstep : faulty path removes _ d _ t) => eq_of_faulty_quiet hcall hstep
  refine hsame.runs.mono (fun t ht => ?_) fun _ _ h => h
  rw [ht]
  exact hd

theorem asks_checkCancelled : (checkCancelled p).Asks Quiet := by
  refine .bind (.ofScript (.call trivial)) fun isCancelled => ?_
  cases isCancelled with
  | false => exact .pure _
  | true => exact .throw _

theorem asks_probe : (Job.probe p).Asks Quiet :=
  Script.Asks.bind (.call trivial) fun _ => trivial

theorem asks_freeNumberedBackup (stamp : String) (tries n : Nat) :
    (freeNumberedBackup p stamp tries n).Asks Quiet := by
  induction tries generalizing n with
  | zero => exact .throw _
  | succ tries ih =>
    refine .bind asks_probe fun found => ?_
    cases found with
    | false => exact .pure _
    | true => exact ih (n + 1)

theorem asks_freeBackup : (freeBackup p).Asks Quiet := by
  refine .bind asks_probe fun found => ?_
  cases found with
  | false => exact .pure _
  | true =>
    refine .bind (.ofScript (.call trivial)) fun now => .bind asks_probe fun found => ?_
    cases found with
    | false => exact .pure _
    | true => exact asks_freeNumberedBackup _ _ _

end Questions

/-! ## Moments of a writing -/

section Writing

variable {path temporary backup : Path} {removes : Bool} {d between e e' : Disk}
  {content : ByteArray}

theorem beside_of_freeNumberedBackup {t : Instant} {tries n : Nat}
    (h : Procedure.Runs (faulty path removes) (freeNumberedBackup path t.stamp tries n) d
      (.ok backup) e) : Beside path backup := by
  induction tries generalizing n d with
  | zero => cases (Procedure.runs_throw.1 h).1
  | succ tries ih =>
    unfold freeNumberedBackup at h
    obtain ⟨found, d', -, hrest⟩ := Procedure.runs_bind_ok.1 h
    cases found with
    | true => exact ih hrest
    | false =>
      cases (Procedure.runs_pure.1 hrest).1
      exact .numbered t n

theorem beside_of_freeBackup
    (h : Procedure.Runs (faulty path removes) (freeBackup path) d (.ok backup) e) :
    Beside path backup := by
  unfold freeBackup at h
  obtain ⟨found, d', -, hrest⟩ := Procedure.runs_bind_ok.1 h
  cases found with
  | false =>
    cases (Procedure.runs_pure.1 hrest).1
    exact .plain
  | true =>
    obtain ⟨now, d₁, -, hrest⟩ := Procedure.runs_bind_ok.1 hrest
    obtain ⟨found, d₂, -, hrest⟩ := Procedure.runs_bind_ok.1 hrest
    cases found with
    | false =>
      cases (Procedure.runs_pure.1 hrest).1
      exact .stamped now
    | true => exact beside_of_freeNumberedBackup hrest

/-- A file beside the path may be removed again. -/
theorem Leaves.discard_beside {p : Path} (h : Leaves (Beside path) between e)
    (hunused : between.Unused p) (hp : Beside path p)
    (hrun : (Job.discard p).Runs (faulty path removes) e () e') :
    Leaves (Beside path) between e' :=
  (h.add p).discard hunused (fun _ => hp) hrun

/-- A backup that is being made is a new file beside the path. -/
theorem through_backUp (h : Leaves (Beside path) between e) :
    (backUp path).Through (faulty path removes) (Leaves (Beside path) between)
      (fun outcome e' => Leaves (Beside path) between e' ∧
        ∀ backup, outcome = .ok backup → Beside path backup ∧ between.Unused backup) e := by
  unfold backUp
  refine .bind (through_quiet asks_freeBackup h) ?_ fun backup e' hfree => ?_
  · rintro failure e' ⟨rfl, -⟩
    exact ⟨h, fun _ heq => nomatch heq⟩
  obtain ⟨rfl, hfree⟩ := hfree
  have hbeside := beside_of_freeBackup hfree
  have hunused : between.Unused backup :=
    h.unused fun x hx => Disk.eq_none_of_probe ((of_freeBackup hfree).2 backup rfl) hx
  have hcopy : (Job.copy path backup).Through (faulty path removes) (Leaves (Beside path) between)
      (fun _ => Leaves (Beside path) between) e' := by
    refine through_ofDisk (Script.through_call.2 ⟨h, fun reply t hstep => ?_⟩)
    cases reply with
    | error fault => exact h.partlyWritten hunused hbeside hstep
    | ok _ =>
      obtain ⟨content, -, hwrite⟩ := Disk.copyFile_iff.1 hstep
      exact h.write hunused hbeside hwrite
  have htry : (Job.orElseRun (Job.copy path backup) (Job.discard backup)).Through
      (faulty path removes) (Leaves (Beside path) between)
      (fun _ => Leaves (Beside path) between) e' :=
    through_orElseRun hcopy (fun _ _ ht => ht) fun _ _ ht =>
      through_discard ht fun _ => ht.discard_beside hunused hbeside
  refine htry.bind (fun _ t ht => ⟨ht, fun _ heq => nomatch heq⟩) fun _ t ht => ⟨ht, ?_⟩
  intro backup' heq
  cases heq
  exact ⟨hbeside, hunused⟩

theorem through_backUpExisting (h : Leaves (Beside path) between e) :
    (backUpExisting path).Through (faulty path removes) (Leaves (Beside path) between)
      (fun outcome e' => Leaves (Beside path) between e' ∧
        ∀ backup, outcome = .ok (some backup) → Beside path backup ∧ between.Unused backup) e := by
  unfold backUpExisting
  refine .bind (through_quiet asks_probe h) ?_ fun found e' hfound => ?_
  · rintro failure e' ⟨rfl, -⟩
    exact ⟨h, fun _ heq => nomatch heq⟩
  obtain ⟨rfl, -⟩ := hfound
  cases found with
  | false => exact ⟨h, fun _ heq => nomatch heq⟩
  | true =>
    rw [if_pos rfl, map_eq_pure_bind]
    refine (through_backUp h).bind (fun _ t ht => ⟨ht.1, fun _ heq => nomatch heq⟩)
      fun backup t ht => ⟨ht.1, fun backup' heq => ?_⟩
    cases heq
    exact ht.2 _ rfl

/-- What holds at the end of a job that succeeds, and of one that fails. -/
def Ends {α : Type} (succeeded failed : Disk → Prop) : Outcome α → Disk → Prop
  | .ok _ => succeeded
  | .error _ => failed

/-- The temporary file has been moved over the path, and the others are as they were. -/
def Moved (path : Path) (between e : Disk) : Prop :=
  ∃ before x, Leaves (Beside path) between before ∧ e.Names path x ∧
    ∀ z, z ≠ x → e.entry? z = before.entry? z

theorem through_moveOver (h : Leaves (Beside path) between e) (hunused : between.Unused temporary) :
    (moveOver temporary path).Through (faulty path removes) (Leaves (Beside path) between)
      (Ends (Moved path between) (Leaves (Beside path) between)) e := by
  unfold moveOver
  refine .bind (through_quiet asks_checkCancelled h) ?_ fun _ e' hcheck => ?_
  · rintro failure e' ⟨rfl, -⟩
    exact h
  obtain ⟨rfl, -⟩ := hcheck
  refine through_ofDisk (Script.through_call.2 ⟨h, fun reply t hstep => ?_⟩)
  cases reply with
  | error fault =>
    obtain rfl : t = e' := hstep
    exact h
  | ok _ =>
    have hrename : e'.rename temporary path = .ok t := hstep
    obtain ⟨x, y, content, hx, hcontent, -⟩ := Disk.of_rename_ok hrename
    have hx' : between.Names temporary x := hx.mono h.ofExtends
    obtain ⟨y, hy, hextends, hentry⟩ := of_rename_temporary h hx' hcontent hrename
    -- What is not at the path is as it would be if the temporary file had been removed.
    have hremoved : Leaves (Beside path) between (e'.erase x) := by
      have hrun : (Job.discard temporary).Runs (faulty path true) e' () (e'.erase x) :=
        Job.runs_discard.2 ⟨.ok (), Disk.removeFile_iff.2 ⟨x, content, hx, hcontent, rfl⟩⟩
      exact (h.add temporary).discard hunused (fun hfalse => Bool.noConfusion hfalse) hrun
    refine ⟨e'.erase x, y, hremoved, hy.mono hextends, fun z hz => ?_⟩
    rw [hentry, if_neg hz, Disk.entryAt_erase hx.ne_nil]

theorem through_install (h : Leaves (Beside path) between e) (hbeside : Beside path temporary)
    (hunused : between.Unused temporary) :
    (install temporary path content).Through (faulty path removes) (Leaves (Beside path) between)
      (Ends (Moved path between) (Leaves (Beside path) between)) e := by
  have hwrite : (Job.write temporary content).Through (faulty path removes)
      (Leaves (Beside path) between) (fun _ => Leaves (Beside path) between) e := by
    refine through_ofDisk (Script.through_call.2 ⟨h, fun reply t hstep => ?_⟩)
    cases reply with
    | error fault => exact h.partlyWritten hunused hbeside hstep
    | ok _ => exact h.write hunused hbeside hstep
  unfold install
  refine hwrite.bind (fun _ _ ht => ht) fun _ e₁ h₁ => ?_
  refine (through_backUpExisting h₁).bind (fun _ _ ht => ht.1) fun backup? e₂ h₂ => ?_
  have hmove : (Job.orElseRun (moveOver temporary path) (discardBackup backup?)).Through
      (faulty path removes) (Leaves (Beside path) between)
      (Ends (Moved path between) (Leaves (Beside path) between)) e₂ := by
    refine through_orElseRun (through_moveOver h₂.1 hunused) (fun _ _ ht => ht) fun _ t ht => ?_
    cases backup? with
    | none => exact ht
    | some backup =>
      obtain ⟨hbackup, hfree⟩ := h₂.2 backup rfl
      exact through_discard ht fun _ => ht.discard_beside hfree hbackup
  exact hmove.bind (fun _ _ ht => ht) fun _ _ ht => ht

-- What the parent is does not matter here, and unfolding it takes long.
attribute [local irreducible] Path.realParent?

theorem through_createParents :
    (createParents path).Through (faulty path removes) (Underway path d)
      (fun _ => Grown path.Above d) d := by
  have honce : (createParents path).Through (faulty path removes) (Underway path d)
      (fun _ _ => True) d := by
    unfold createParents
    cases path.realParent? with
    | none => trivial
    | some parent =>
      exact through_ofDisk (Script.through_call.2 ⟨.refl path d, fun _ _ _ => trivial⟩)
  exact honce.runs.mono (fun _ ht => ht) fun _ _ ht => (of_createParents ht.2).grown

theorem through_replaceContent {content : String} :
    (replaceContent path content).Through (faulty path removes) (Underway path d)
      (Ends (Touched path d) (Underway path d)) d := by
  unfold replaceContent
  refine .bind (through_quiet asks_checkCancelled (.refl path d)) ?_ fun _ e hcheck => ?_
  · rintro failure e ⟨rfl, -⟩
    exact .refl path e
  obtain ⟨rfl, -⟩ := hcheck
  refine through_createParents.bind (fun _ t ht => .of_grown ht) fun _ between hgrown => ?_
  have hid : Job.freshId.Through (faulty path removes) (Underway path e)
      (fun outcome t => t = between ∧
        ∀ id, outcome = .ok id → between.Unused (temporaryPath path id)) between := by
    refine Procedure.through_ofScript
      (Script.through_call.2 ⟨.of_grown hgrown, fun id t hstep => ?_⟩)
    obtain ⟨hunused, rfl⟩ := hstep
    refine ⟨rfl, fun id' heq => ?_⟩
    cases heq
    exact hunused
  refine hid.bind ?_ fun id t ht => ?_
  · rintro failure t ⟨rfl, -⟩
    exact .of_grown hgrown
  obtain ⟨rfl, hunused⟩ := ht
  have hinstall : (Job.orElseRun (install (temporaryPath path id) path content.toUTF8)
      (Job.discard (temporaryPath path id))).Through (faulty path removes)
      (Leaves (Beside path) t) (Ends (Moved path t) (Leaves (Beside path) t)) t := by
    refine through_orElseRun (through_install (.refl _ t) (.temporary id) (hunused id rfl))
      (fun _ _ hu => hu) fun _ u hu => ?_
    exact through_discard hu fun _ => hu.discard_beside (hunused id rfl) (.temporary id)
  refine hinstall.mono (fun u hu => ⟨t, hgrown, hu⟩) fun outcome u hu => ?_
  cases outcome with
  | error failure => exact ⟨t, hgrown, hu⟩
  | ok written =>
    obtain ⟨before, x, hbefore, hnames, hothers⟩ := hu
    exact .moved ⟨t, hgrown, hbefore⟩ hnames hothers

theorem through_replaceAnchor {anchor replacement : String} :
    (replaceAnchor path anchor replacement).Through (faulty path removes) (Underway path d)
      (Ends (Touched path d) (Underway path d)) d := by
  unfold replaceAnchor
  refine .bind (through_quiet (.ofScript (Job.asks_tryReadText trivial)) (.refl path d)) ?_
    fun read e hread => ?_
  · rintro failure e ⟨rfl, -⟩
    exact .refl path e
  obtain ⟨rfl, -⟩ := hread
  split
  · exact .refl path e
  · exact .refl path e
  · dsimp only
    split
    · exact .refl path e
    · exact through_replaceContent
    · exact .refl path e

end Writing

/-! ## Moments of a request -/

section Requests

variable {path p : Path} {removes : Bool} {d : Disk} {α : Type}

/-- The questions about the lock and the release of it are moments as well. -/
theorem through_locked {job : Job α} {during : Disk → Prop} {after : Outcome α → Disk → Prop}
    (hd : during d) (hjob : job.Through (faulty path removes) during after d)
    (hafter : ∀ outcome e, after outcome e → during e) :
    (Task.locked p job).Through (faultyTask path removes) during after d := by
  have hask : (Job.ask .workingDirectory).Through (faulty path removes) during
      (fun outcome e => e = d ∧ ∃ base, outcome = .ok base) d :=
    Procedure.through_ofScript ⟨hd, fun base _ hstep => ⟨hstep, base, rfl⟩⟩
  have hbase : (Task.ofJob (Job.ask .workingDirectory)).Through (faultyTask path removes) during
      (fun outcome e => e = d ∧ ∃ base, outcome = .ok base) d := Script.through_left.2 hask
  refine hbase.bind ?_ fun base e he => ?_
  · rintro failure e ⟨-, base, heq⟩
    cases heq
  obtain ⟨rfl, -⟩ := he
  have hlocks : ∀ {call : Locks.Call} {t : Disk}, during t →
      (Task.askLocks call).Through (faultyTask path removes) during (fun _ u => u = t) t :=
    fun ht => ⟨ht, fun _ _ hstep => hstep⟩
  refine Script.Through.bind (hlocks hd) fun lock t ht => ?_
  subst ht
  refine Script.Through.bind (hlocks hd) fun _ t' ht => ?_
  subst ht
  refine Script.Through.bind (Script.through_left.2 hjob) fun outcome u hu => ?_
  refine Script.Through.bind (hlocks (hafter outcome u hu)) fun _ u' hu' => ?_
  subst hu'
  exact hu

theorem through_job (request : Request) :
    (request.job path).Through (faulty path removes) (Underway path d)
      (Ends (Touched path d) (Underway path d)) d := by
  cases request with
  | write content => exact through_replaceContent
  | update anchor replacement => exact through_replaceAnchor

/-- At every moment of a request its path is the only one whose file may have been changed. -/
theorem through_request (request : Request) :
    (request.task path).Through (faultyTask path removes) (Touched path d)
      (fun _ => Touched path d) d := by
  have hstart : Touched path d d := .underway (.refl path d)
  rcases request.task_cases path with ⟨failure, hrefused⟩ | hlocked
  · rw [hrefused]
    exact hstart
  rw [hlocked]
  refine through_locked hstart ((through_job request).mono (fun _ => .underway) ?_) fun _ _ he => he
  intro outcome e he
  cases outcome with
  | ok written => exact he
  | error failure => exact .underway he

end Requests

end SchemaCodegen.Output
