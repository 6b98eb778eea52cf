import SchemaCodegen.Proofs.Disk.Paths
import SchemaCodegen.Proofs.Output.Leftovers

/-!
# The steps of a writing

What each part of `replaceContent` does on a faulty machine: what holds when it succeeds, and what
it leaves when it fails. A part that fails takes back what it added itself.
-/

namespace SchemaCodegen.Output

open Disk (Grown PartlyWritten)

variable {path p temporary : Path} {removes : Bool} {d₀ d d' : Disk} {paths : Path → Prop}
  {failure : Failure} {content : ByteArray}

/-! ## Questions -/

theorem of_checkCancelled {outcome : Outcome Unit}
    (h : Procedure.Runs (faulty path removes) (checkCancelled p) d outcome d') : d' = d := by
  unfold checkCancelled at h
  rcases Procedure.runs_bind.1 h with ⟨failure, -, hask⟩ | ⟨isCancelled, t, hask, hrest⟩
  · exact absurd hask Procedure.not_runs_ofScript_error
  · have ht : t = d := Script.runs_call.1 (Procedure.runs_ofScript_ok.1 hask)
    split at hrest
    · exact (Procedure.runs_throw.1 hrest).2.symm.trans ht
    · exact (Procedure.runs_pure.1 hrest).2.symm.trans ht

theorem of_probe {outcome : Outcome Bool}
    (h : Procedure.Runs (faulty path removes) (Job.probe p) d outcome d') :
    d' = d ∧ ∀ found, outcome = .ok found → d.probe p = .ok found := by
  cases outcome with
  | ok found =>
    have hstep := Script.runs_call.1 (Job.runs_ofDisk_ok.1 h)
    obtain ⟨htold, rfl⟩ := hstep
    refine ⟨rfl, fun _ heq => ?_⟩
    cases heq
    exact htold
  | error failure =>
    obtain ⟨fault, -, hstep⟩ := Job.runs_ofDisk_error.1 h
    obtain ⟨-, rfl⟩ := Script.runs_call.1 hstep
    refine ⟨rfl, fun _ heq => ?_⟩
    cases heq

/-! ## Backups -/

/-- A candidate is taken if nothing is there. -/
theorem of_probe_bind {f : Bool → Job Path} {outcome : Outcome Path} (hfree : f false = pure p)
    (hrest : Procedure.Runs (faulty path removes) (f true) d outcome d' →
      d' = d ∧ ∀ backup, outcome = .ok backup → d.probe backup = .ok false)
    (h : Procedure.Runs (faulty path removes) (Job.probe p >>= f) d outcome d') :
    d' = d ∧ ∀ backup, outcome = .ok backup → d.probe backup = .ok false := by
  rcases Procedure.runs_bind.1 h with ⟨failure, rfl, hprobe⟩ | ⟨found, t, hprobe, h⟩
  · exact ⟨(of_probe hprobe).1, fun _ heq => nomatch heq⟩
  · obtain ⟨rfl, hfound⟩ := of_probe hprobe
    cases found with
    | true => exact hrest h
    | false =>
      rw [hfree] at h
      obtain ⟨rfl, rfl⟩ := Procedure.runs_pure.1 h
      refine ⟨rfl, fun backup heq => ?_⟩
      cases heq
      exact hfound false rfl

theorem of_freeNumberedBackup {stamp : String} {tries n : Nat} {outcome : Outcome Path}
    (h : Procedure.Runs (faulty path removes) (freeNumberedBackup p stamp tries n) d outcome d') :
    d' = d ∧ ∀ backup, outcome = .ok backup → d.probe backup = .ok false := by
  induction tries generalizing n with
  | zero =>
    obtain ⟨rfl, rfl⟩ := Procedure.runs_throw.1 h
    exact ⟨rfl, fun _ heq => nomatch heq⟩
  | succ tries ih =>
    unfold freeNumberedBackup at h
    exact of_probe_bind rfl ih h

/-- A backup is chosen by looking, and nothing is at the chosen path. -/
theorem of_freeBackup {outcome : Outcome Path}
    (h : Procedure.Runs (faulty path removes) (freeBackup p) d outcome d') :
    d' = d ∧ ∀ backup, outcome = .ok backup → d.probe backup = .ok false := by
  unfold freeBackup at h
  refine of_probe_bind rfl (fun htaken => ?_) h
  rw [if_neg (by decide), Procedure.runs_bind] at htaken
  rcases htaken with ⟨failure, -, hclock⟩ | ⟨now, t, hclock, hstamped⟩
  · exact absurd hclock Procedure.not_runs_ofScript_error
  · have ht : t = d := Script.runs_call.1 (Procedure.runs_ofScript_ok.1 hclock)
    rw [ht] at hstamped
    exact of_probe_bind rfl of_freeNumberedBackup hstamped

/-- A backup holds what the path held, and nothing was in its place. -/
theorem of_backUp_ok {backup : Path}
    (h : Procedure.Runs (faulty path removes) (backUp p) d (.ok backup) d') :
    d.probe backup = .ok false ∧
      ∃ content, d.readFile p = .ok content ∧ d.writeFile backup content = .ok d' := by
  unfold backUp at h
  obtain ⟨free, t, hfree, hrest⟩ := Procedure.runs_bind_ok.1 h
  obtain ⟨rfl, hprobe⟩ := of_freeBackup hfree
  obtain ⟨_, t', hcopy, hdone⟩ := Procedure.runs_bind_ok.1 hrest
  obtain ⟨heq, rfl⟩ := Procedure.runs_pure.1 hdone
  cases heq
  have hcopied := Script.runs_call.1 (Job.runs_ofDisk_ok.1 (Job.runs_orElseRun_ok.1 hcopy))
  exact ⟨hprobe _ rfl, Disk.copyFile_iff.1 hcopied⟩

theorem of_backUp_error (h₀ : Leaves paths d₀ d) (hpaths : ∀ q, removes = false → paths q)
    (h : Procedure.Runs (faulty path removes) (backUp p) d (.error failure) d') :
    Leaves paths d₀ d' := by
  unfold backUp at h
  rcases Procedure.runs_bind_error.1 h with hfree | ⟨free, t, hfree, hrest⟩
  · obtain ⟨rfl, -⟩ := of_freeBackup hfree
    exact h₀
  obtain ⟨rfl, hprobe⟩ := of_freeBackup hfree
  rcases Procedure.runs_bind_error.1 hrest with hfail | ⟨_, t', -, hdone⟩
  · obtain ⟨t', hcopy, hdiscard⟩ := Job.runs_orElseRun_error.1 hfail
    obtain ⟨fault, -, hcopy⟩ := Job.runs_ofDisk_error.1 hcopy
    have hpart : PartlyWritten free t t' := Script.runs_call.1 hcopy
    have hunused : d₀.Unused free :=
      h₀.unused fun x hx => Disk.eq_none_of_probe (hprobe free rfl) hx
    have hleaves := (h₀.add free).partlyWritten hunused (.inl rfl) hpart
    exact hleaves.discard hunused (hpaths free) hdiscard
  · cases (Procedure.runs_pure.1 hdone).1

theorem of_backUpExisting_ok {backup? : Option Path}
    (h : Procedure.Runs (faulty path removes) (backUpExisting p) d (.ok backup?) d') :
    (backup? = none ∧ d.probe p = .ok false ∧ d' = d) ∨
      ∃ backup content, backup? = some backup ∧ d.probe backup = .ok false ∧
        d.readFile p = .ok content ∧ d.writeFile backup content = .ok d' := by
  unfold backUpExisting at h
  obtain ⟨found, t, hprobe, hrest⟩ := Procedure.runs_bind_ok.1 h
  obtain ⟨rfl, hfound⟩ := of_probe hprobe
  cases found with
  | false =>
    obtain ⟨heq, rfl⟩ := Procedure.runs_pure.1 hrest
    cases heq
    exact .inl ⟨rfl, hfound false rfl, rfl⟩
  | true =>
    rw [if_pos rfl, map_eq_pure_bind] at hrest
    obtain ⟨backup, t', hbackUp, hdone⟩ := Procedure.runs_bind_ok.1 hrest
    obtain ⟨heq, rfl⟩ := Procedure.runs_pure.1 hdone
    cases heq
    obtain ⟨hfree, content, hread, hwrite⟩ := of_backUp_ok hbackUp
    exact .inr ⟨backup, content, rfl, hfree, hread, hwrite⟩

theorem of_backUpExisting_error (h₀ : Leaves paths d₀ d) (hpaths : ∀ q, removes = false → paths q)
    (h : Procedure.Runs (faulty path removes) (backUpExisting p) d (.error failure) d') :
    Leaves paths d₀ d' := by
  unfold backUpExisting at h
  rcases Procedure.runs_bind_error.1 h with hprobe | ⟨found, t, hprobe, hrest⟩
  · obtain ⟨rfl, -⟩ := of_probe hprobe
    exact h₀
  obtain ⟨rfl, -⟩ := of_probe hprobe
  cases found with
  | false => cases (Procedure.runs_pure.1 hrest).1
  | true =>
    rw [if_pos rfl, map_eq_pure_bind] at hrest
    rcases Procedure.runs_bind_error.1 hrest with hbackUp | ⟨backup, t', -, hdone⟩
    · exact of_backUp_error h₀ hpaths hbackUp
    · cases (Procedure.runs_pure.1 hdone).1

/-! ## The temporary file -/

theorem of_moveOver_ok
    (h : Procedure.Runs (faulty path removes) (moveOver temporary p) d (.ok ()) d') :
    d.rename temporary p = .ok d' := by
  unfold moveOver at h
  obtain ⟨_, t, hcheck, hrename⟩ := Procedure.runs_bind_ok.1 h
  obtain rfl := of_checkCancelled hcheck
  have hdisk := Job.runs_ofDisk_ok.1 hrename
  exact Script.runs_call.1 hdisk

theorem of_moveOver_error
    (h : Procedure.Runs (faulty path removes) (moveOver temporary p) d (.error failure) d') :
    d' = d := by
  unfold moveOver at h
  rcases Procedure.runs_bind_error.1 h with hcheck | ⟨_, t, hcheck, hrename⟩
  · exact of_checkCancelled hcheck
  · obtain rfl := of_checkCancelled hcheck
    obtain ⟨fault, -, hdisk⟩ := Job.runs_ofDisk_error.1 hrename
    exact Script.runs_call.1 hdisk

theorem of_install_ok {written : Written}
    (h : Procedure.Runs (faulty path removes) (install temporary p content) d (.ok written) d') :
    ∃ stored saved, d.writeFile temporary content = .ok stored ∧
      ((written.backup = none ∧ stored.probe p = .ok false ∧ saved = stored) ∨
        ∃ backup old, written.backup = some backup ∧ stored.probe backup = .ok false ∧
          stored.readFile p = .ok old ∧ stored.writeFile backup old = .ok saved) ∧
      saved.rename temporary p = .ok d' := by
  unfold install at h
  obtain ⟨_, stored, hwrite, hrest⟩ := Procedure.runs_bind_ok.1 h
  obtain ⟨backup?, saved, hbackup, hrest⟩ := Procedure.runs_bind_ok.1 hrest
  obtain ⟨_, t, hmove, hdone⟩ := Procedure.runs_bind_ok.1 hrest
  obtain ⟨heq, rfl⟩ := Procedure.runs_pure.1 hdone
  cases heq
  have hdisk := Job.runs_ofDisk_ok.1 hwrite
  exact ⟨stored, saved, Script.runs_call.1 hdisk, of_backUpExisting_ok hbackup,
    of_moveOver_ok (Job.runs_orElseRun_ok.1 hmove)⟩

/-- What fails after the backup was made takes the backup back. -/
theorem of_install_error (h₀ : Leaves paths d₀ d) (hpaths : ∀ q, removes = false → paths q)
    (hunused : d₀.Unused temporary)
    (h : Procedure.Runs (faulty path removes) (install temporary p content) d (.error failure)
      d') : Leaves (fun q => q = temporary ∨ paths q) d₀ d' := by
  unfold install at h
  -- Whatever fails, the temporary file is left to the caller, who removes it.
  have hpaths' : ∀ q, removes = false → q = temporary ∨ paths q := fun q hq => .inr (hpaths q hq)
  rcases Procedure.runs_bind_error.1 h with hwrite | ⟨_, stored, hwrite, hrest⟩
  · obtain ⟨fault, -, hdisk⟩ := Job.runs_ofDisk_error.1 hwrite
    have hpart : PartlyWritten temporary d d' := Script.runs_call.1 hdisk
    exact (h₀.add temporary).partlyWritten hunused (.inl rfl) hpart
  have hdisk := Job.runs_ofDisk_ok.1 hwrite
  have hstored := (h₀.add temporary).write hunused (.inl rfl) (Script.runs_call.1 hdisk)
  rcases Procedure.runs_bind_error.1 hrest with hbackup | ⟨backup?, saved, hbackup, hrest⟩
  · exact of_backUpExisting_error hstored hpaths' hbackup
  rcases Procedure.runs_bind_error.1 hrest with hmove | ⟨_, t, -, hdone⟩
  · obtain ⟨t, hmove, hdiscard⟩ := Job.runs_orElseRun_error.1 hmove
    obtain rfl := of_moveOver_error hmove
    rcases of_backUpExisting_ok hbackup with ⟨rfl, -, rfl⟩ | ⟨backup, old, rfl, hfree, -, hcopy⟩
    · obtain ⟨-, rfl⟩ := Script.runs_pure.1 hdiscard
      exact hstored
    · have hunused' : d₀.Unused backup :=
        hstored.unused fun x hx => Disk.eq_none_of_probe hfree hx
      have hsaved := (hstored.add backup).write hunused' (.inl rfl) hcopy
      exact hsaved.discard hunused' (hpaths' backup) hdiscard
  · cases (Procedure.runs_pure.1 hdone).1

/-! ## The whole writing -/

-- What the parent is does not matter here, and unfolding it takes long.
attribute [local irreducible] Path.realParent?

theorem runs_createParents_of_none {σ : Type} {step : machine.Step σ} {s : σ}
    (h : p.realParent? = none) : Procedure.Runs step (createParents p) s (.ok ()) s := by
  unfold createParents
  rw [h]
  exact Procedure.runs_pure.2 ⟨rfl, rfl⟩

theorem of_createParents {outcome : Outcome Unit}
    (h : Procedure.Runs (faulty path removes) (createParents p) d outcome d') :
    Disk.Makes p.Above d d' := by
  unfold createParents at h
  cases hparent : p.realParent? with
  | none =>
    rw [hparent] at h
    obtain ⟨-, rfl⟩ := Procedure.runs_pure.1 h
    exact .none
  | some parent =>
    rw [hparent] at h
    have hmakes : Disk.Makes (fun q => q = parent ∨ parent.Above q) d d' := by
      cases outcome with
      | ok _ =>
        have hdisk := Job.runs_ofDisk_ok.1 h
        exact .of_createDirectories (Script.runs_call.1 hdisk)
      | error failure =>
        obtain ⟨fault, -, hdisk⟩ := Job.runs_ofDisk_error.1 h
        exact Script.runs_call.1 hdisk
    exact hmakes.mono fun q hq => Path.above_of_realParent? hparent hq

theorem of_replaceContent_ok {content : String} {written : Written}
    (h : Procedure.Runs (faulty path removes) (replaceContent path content) d (.ok written) d') :
    ∃ between id, Grown path.Above d between ∧ between.Unused (temporaryPath path id) ∧
      Procedure.Runs (faulty path removes) (install (temporaryPath path id) path content.toUTF8)
        between (.ok written) d' := by
  unfold replaceContent at h
  obtain ⟨_, t, hcheck, hrest⟩ := Procedure.runs_bind_ok.1 h
  obtain rfl := of_checkCancelled hcheck
  obtain ⟨_, between, hparents, hrest⟩ := Procedure.runs_bind_ok.1 hrest
  obtain ⟨id, t', hid, hinstall⟩ := Procedure.runs_bind_ok.1 hrest
  have hstep := Script.runs_call.1 (Procedure.runs_ofScript_ok.1 hid)
  obtain ⟨hunused, rfl⟩ := hstep
  exact ⟨t', id, (of_createParents hparents).grown, hunused, Job.runs_orElseRun_ok.1 hinstall⟩

/-- A writing that fails leaves nothing but directories above its path, and files that could not
be removed. -/
theorem of_replaceContent_error {content : String}
    (h : Procedure.Runs (faulty path removes) (replaceContent path content) d (.error failure)
      d') :
    ∃ between, Disk.Makes path.Above d between ∧
      Leaves (fun _ => removes = false) between d' := by
  unfold replaceContent at h
  rcases Procedure.runs_bind_error.1 h with hcheck | ⟨_, t, hcheck, hrest⟩
  · obtain rfl := of_checkCancelled hcheck
    exact ⟨d', .none, .refl _ _⟩
  obtain rfl := of_checkCancelled hcheck
  rcases Procedure.runs_bind_error.1 hrest with hparents | ⟨_, between, hparents, hrest⟩
  · exact ⟨d', of_createParents hparents, .refl _ _⟩
  rcases Procedure.runs_bind_error.1 hrest with hid | ⟨id, t', hid, hinstall⟩
  · exact absurd hid Procedure.not_runs_ofScript_error
  have hstep := Script.runs_call.1 (Procedure.runs_ofScript_ok.1 hid)
  obtain ⟨hunused, rfl⟩ := hstep
  obtain ⟨t, hinstall, hdiscard⟩ := Job.runs_orElseRun_error.1 hinstall
  have hleaves := of_install_error (.refl _ t') (fun _ h => h) hunused hinstall
  exact ⟨t', of_createParents hparents, hleaves.discard hunused (fun h => h) hdiscard⟩

end SchemaCodegen.Output
