import SchemaCodegen.Proofs.Script.Runs

/-!
# Runs of jobs

How the jobs run that the others are made of, whatever the machine answers. A question to the disk
succeeds or fails as it is answered (`runs_ofDisk_ok`, `runs_ofDisk_error`), what cleans up runs
after a failure only (`runs_orElseRun_ok`, `runs_orElseRun_error`), and to read a text is to ask
for the bytes and to decode them (`runs_tryReadText`).
-/

namespace SchemaCodegen

namespace Job

variable {σ α : Type} {step : machine.Step σ} {s s' : σ} {a : α} {failure : Failure}

/-! ## Asking the disk, cleaning up -/

theorem runs_ofDisk_ok {script : Script machine (Except Disk.Fault α)} :
    Procedure.Runs step (ofDisk script) s (.ok a) s' ↔ script.Runs step s (.ok a) s' := by
  change Script.Runs step (script >>= fun reply => pure (Disk.outcome reply)) s _ s' ↔ _
  rw [Script.runs_bind]
  constructor
  · rintro ⟨reply, t, h, houtcome, rfl⟩
    cases reply with
    | error fault => cases houtcome
    | ok _ =>
      cases houtcome
      exact h
  · intro h
    exact ⟨_, s', h, rfl, rfl⟩

theorem runs_ofDisk_error {script : Script machine (Except Disk.Fault α)} :
    Procedure.Runs step (ofDisk script) s (.error failure) s' ↔
      ∃ fault, failure = .io fault ∧ script.Runs step s (.error fault) s' := by
  change Script.Runs step (script >>= fun reply => pure (Disk.outcome reply)) s _ s' ↔ _
  rw [Script.runs_bind]
  constructor
  · rintro ⟨reply, t, h, houtcome, rfl⟩
    cases reply with
    | error fault =>
      cases houtcome
      exact ⟨fault, rfl, h⟩
    | ok _ => cases houtcome
  · rintro ⟨fault, rfl, h⟩
    exact ⟨_, s', h, rfl, rfl⟩

/-- A job that succeeds cleans nothing up. -/
theorem runs_orElseRun_ok {job : Job α} {cleanUp : Script machine Unit} :
    Procedure.Runs step (orElseRun job cleanUp) s (.ok a) s' ↔
      Procedure.Runs step job s (.ok a) s' := by
  unfold orElseRun
  rw [Procedure.runs_mk, Script.runs_bind]
  constructor
  · rintro ⟨outcome, t, hjob, h⟩
    cases outcome with
    | ok _ =>
      obtain ⟨houtcome, rfl⟩ := Script.runs_pure.1 h
      cases houtcome
      exact hjob
    | error failure =>
      obtain ⟨-, -, -, houtcome, -⟩ := Script.runs_bind.1 h
      cases houtcome
  · intro h
    exact ⟨_, s', h, rfl, rfl⟩

theorem runs_orElseRun_error {job : Job α} {cleanUp : Script machine Unit} :
    Procedure.Runs step (orElseRun job cleanUp) s (.error failure) s' ↔
      ∃ t, Procedure.Runs step job s (.error failure) t ∧ cleanUp.Runs step t () s' := by
  unfold orElseRun
  rw [Procedure.runs_mk, Script.runs_bind]
  constructor
  · rintro ⟨outcome, t, hjob, h⟩
    cases outcome with
    | ok _ => cases (Script.runs_pure.1 h).1
    | error failure =>
      obtain ⟨_, u, hclean, houtcome, rfl⟩ := Script.runs_bind.1 h
      cases houtcome
      exact ⟨t, hjob, hclean⟩
  · rintro ⟨t, hjob, hclean⟩
    exact ⟨_, t, hjob, Script.runs_bind.2 ⟨(), s', hclean, rfl, rfl⟩⟩

theorem runs_discard {p : Path} :
    Script.Runs step (discard p) s () s' ↔
      ∃ reply : Except Disk.Fault Unit, step (.remove p) s reply s' := by
  unfold discard
  rw [Script.runs_bind]
  constructor
  · rintro ⟨reply, t, h, -, rfl⟩
    exact ⟨reply, Script.runs_call.1 h⟩
  · rintro ⟨reply, h⟩
    exact ⟨reply, s', Script.runs_call.2 h, rfl, rfl⟩

section Asked

variable {allowed : Machine.Call → Prop}

theorem asks_ofDisk {script : Script machine (Except Disk.Fault α)} (h : script.Asks allowed) :
    (ofDisk script).Asks allowed :=
  Script.Asks.bind h fun _ => .pure _

theorem asks_orElseRun {job : Job α} {cleanUp : Script machine Unit} (hjob : job.Asks allowed)
    (hcleanUp : cleanUp.Asks allowed) : (orElseRun job cleanUp).Asks allowed := by
  refine Script.Asks.bind hjob fun outcome => ?_
  cases outcome with
  | ok a => exact .pure _
  | error failure => exact .bind hcleanUp fun _ => .pure _

end Asked

/-! ## Reading a text -/

/-- The text that the bytes of a file encode. -/
def textOf : Except Disk.Fault ByteArray → Except Disk.Fault String
  | .error fault => .error fault
  | .ok bytes =>
    match String.fromUTF8? bytes with
    | some text => .ok text
    | none => .error .notText

theorem tryReadText_eq (path : Path) :
    tryReadText path = readBytes path >>= fun bytes => pure (textOf bytes) := by
  refine congrArg (readBytes path >>= ·) (funext fun bytes => ?_)
  cases bytes with
  | error fault => rfl
  | ok bytes =>
    dsimp only [textOf]
    cases String.fromUTF8? bytes <;> rfl

theorem runs_tryReadText {path : Path} {text : Except Disk.Fault String} :
    (tryReadText path).Runs step s text s' ↔
      ∃ bytes : Except Disk.Fault ByteArray,
        step (.read path) s bytes s' ∧ text = textOf bytes := by
  rw [tryReadText_eq, Script.runs_bind]
  constructor
  · rintro ⟨bytes, t, hread, htext⟩
    obtain ⟨rfl, rfl⟩ := Script.runs_pure.1 htext
    exact ⟨bytes, Script.runs_call.1 hread, rfl⟩
  · rintro ⟨bytes, hread, rfl⟩
    exact ⟨bytes, s', Script.runs_call.2 hread, rfl, rfl⟩

theorem asks_tryReadText {path : Path} {allowed : Machine.Call → Prop} (h : allowed (.read path)) :
    (tryReadText path).Asks allowed := by
  rw [tryReadText_eq]
  exact .bind (.call h) fun _ => .pure _

theorem fromUTF8?_eq_some_iff {bytes : ByteArray} {text : String} :
    String.fromUTF8? bytes = some text ↔ bytes = text.toUTF8 := by
  unfold String.fromUTF8?
  constructor
  · intro h
    split at h <;> cases h
    rfl
  · rintro rfl
    exact dif_pos text.isValidUTF8

theorem textOf_eq_ok_iff {bytes : Except Disk.Fault ByteArray} {text : String} :
    textOf bytes = .ok text ↔ bytes = .ok text.toUTF8 := by
  cases bytes with
  | error fault => exact ⟨nofun, nofun⟩
  | ok bytes =>
    rw [Except.ok.injEq, ← fromUTF8?_eq_some_iff]
    dsimp only [textOf]
    cases String.fromUTF8? bytes with
    | none => exact ⟨nofun, nofun⟩
    | some read => rw [Except.ok.injEq, Option.some.injEq]

end Job

end SchemaCodegen
