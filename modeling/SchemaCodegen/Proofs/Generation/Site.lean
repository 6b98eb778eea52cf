import SchemaCodegen.Generation.Workplace
import SchemaCodegen.Proofs.Generation.Attempts

/-!
# Sites of runs

A `Site` is any place where a run can take place: its machine and its production may answer as
they like, and its keeper may fail; all that is asked is that a keeper who reports success did what
it was asked, and that nobody else touches the metadata. The main statements say what a run that
ends with a report did to the metadata (`Generator.of_run_ok`), whatever became of the artifacts.
-/

namespace SchemaCodegen

structure Site (σ : Type) where
  machine : SchemaCodegen.machine.Step σ
  keeper : repository.Step σ
  production : SchemaCodegen.production.Step σ
  metadata : σ → Metadata
  machine_keeps : ∀ {call s reply s'}, machine call s reply s' → metadata s' = metadata s
  production_keeps : ∀ {call s reply s'}, production call s reply s' → metadata s' = metadata s
  loads : ∀ {s m s'}, keeper .load s (Except.ok m) s' → m = metadata s ∧ metadata s' = metadata s
  persists : ∀ {m s s'}, keeper (.persist m) s (Except.ok ()) s' → metadata s' = m
  marks : ∀ {keys time s s'}, keeper (.markGenerated keys time) s (Except.ok ()) s' →
    (metadata s).markAllGenerated keys time = .ok (metadata s')
  records : ∀ {history s s'}, keeper (.recordHistory history) s (Except.ok ()) s' →
    metadata s' = metadata s

namespace Site

variable {σ α : Type}

/-- How bookkeeping is answered at a site. -/
def books (site : Site σ) : bookkeeping.Step σ :=
  Interface.Step.sum site.machine site.keeper

/-- How a run is answered at a site. -/
def step (site : Site σ) : generation.Step σ :=
  Interface.Step.sum site.books site.production

end Site

section Bookkeeping

variable {σ : Type} {site : Site σ} {s s' : σ}

/-- What a bookkeeper asks the machine leaves the metadata alone. -/
theorem Bookkeeping.runs_ask_machine {call : Machine.Call} {reply : Machine.Reply call}
    (h : Procedure.Runs site.books (Bookkeeping.ofJob (Job.ask call)) s (.ok reply) s') :
    site.metadata s' = site.metadata s := by
  have h := Procedure.runs_ofScript_ok.1 (Procedure.runs_left.1 h)
  exact site.machine_keeps (Script.runs_call.1 h)

theorem Bookkeeping.runs_ask {call : Repository.Call} {reply : Repository.Reply call} :
    Script.Runs site.books (Bookkeeping.ask call) s reply s' ↔ site.keeper call s reply s' :=
  Script.runs_right.trans Script.runs_call

/-- A sync that succeeds has brought the kept metadata in line with the snapshot. -/
theorem Bookkeeping.of_sync_ok {snapshot : Snapshot} {result : SyncResult}
    (h : Procedure.Runs site.books (Bookkeeping.sync snapshot) s (.ok result) s') :
    ∃ fresh now, (site.metadata s).sync fresh now snapshot = (site.metadata s', result) := by
  obtain ⟨m, s₁, hload, h⟩ := Procedure.runs_bind_ok.1 h
  obtain ⟨rfl, hkept⟩ := site.loads (Bookkeeping.runs_ask.1 hload)
  obtain ⟨now, s₂, hclock, h⟩ := Procedure.runs_bind_ok.1 h
  obtain ⟨fresh, s₃, hids, h⟩ := Procedure.runs_bind_ok.1 h
  refine ⟨fresh, now, ?_⟩
  generalize (site.metadata s).sync fresh now snapshot = synced at h ⊢
  obtain ⟨⟨⟩, s₄, hpersist, h⟩ := Procedure.runs_bind_ok.1 h
  obtain ⟨hresult, rfl⟩ := Procedure.runs_pure.1 h
  cases hresult
  rw [site.persists (Bookkeeping.runs_ask.1 hpersist)]

/-- Asking for a plan leaves the metadata alone. -/
theorem Bookkeeping.of_plan_ok {sync : SyncResult} {includeUnchanged : Bool}
    {plan : GenerationPlan}
    (h : Procedure.Runs site.books (Bookkeeping.plan sync includeUnchanged) s (.ok plan) s') :
    site.metadata s' = site.metadata s ∧
      ∃ now, plan = .build (site.metadata s) sync includeUnchanged now := by
  obtain ⟨m, s₁, hload, h⟩ := Procedure.runs_bind_ok.1 h
  obtain ⟨rfl, hkept⟩ := site.loads (Bookkeeping.runs_ask.1 hload)
  obtain ⟨now, s₂, hclock, h⟩ := Procedure.runs_bind_ok.1 h
  obtain ⟨hplan, rfl⟩ := Procedure.runs_pure.1 h
  cases hplan
  exact ⟨(Bookkeeping.runs_ask_machine hclock).trans hkept, now, rfl⟩

theorem Bookkeeping.of_markAllGenerated_ok {keys : List String}
    (h : Procedure.Runs site.books (Bookkeeping.markAllGenerated keys) s (.ok ()) s') :
    ∃ time, (site.metadata s).markAllGenerated keys time = .ok (site.metadata s') := by
  unfold Bookkeeping.markAllGenerated at h
  by_cases hempty : keys.isEmpty
  · rw [if_pos hempty] at h
    obtain ⟨-, rfl⟩ := Procedure.runs_pure.1 h
    rw [List.isEmpty_iff.1 hempty]
    exact ⟨default, rfl⟩
  · rw [if_neg hempty] at h
    obtain ⟨time, s₁, hclock, h⟩ := Procedure.runs_bind_ok.1 h
    rw [← Bookkeeping.runs_ask_machine hclock]
    exact ⟨time, site.marks (Bookkeeping.runs_ask.1 h)⟩

theorem Bookkeeping.of_recordHistory_ok {records : List HistoryRecord}
    (h : Procedure.Runs site.books (Bookkeeping.recordHistory records) s (.ok ()) s') :
    site.metadata s' = site.metadata s := by
  unfold Bookkeeping.recordHistory at h
  by_cases hempty : records.isEmpty
  · rw [if_pos hempty] at h
    obtain ⟨-, rfl⟩ := Procedure.runs_pure.1 h
    rfl
  · rw [if_neg hempty] at h
    exact site.records (Bookkeeping.runs_ask.1 h)

end Bookkeeping

/-! ## Generating tables -/

namespace Generator

section Tables

variable {σ : Type} {site : Site σ} {s s' : σ} {g : Generator} {snapshot : Snapshot}

/-- Generating tables leaves the metadata alone. -/
theorem metadata_of_generateTables {plans : List TablePlan} {runs : List TableRun}
    (h : Script.Runs site.step (g.generateTables snapshot plans) s runs s') :
    site.metadata s' = site.metadata s := by
  have hasks : (g.generateTables snapshot plans).Asks fun call => ∀ ⦃s reply s'⦄,
      site.step call s reply s' → site.metadata s' = site.metadata s :=
    asks_generateTables (fun _ _ _ _ h => site.machine_keeps h)
      (fun _ _ _ _ _ h => site.production_keeps h)
      (fun _ _ _ _ _ _ _ _ h => site.production_keeps h) plans
  exact hasks.keeps (P := fun s s' => site.metadata s' = site.metadata s) (fun _ => rfl)
    (fun h h' => h'.trans h) (fun _ _ _ _ hkeeps hstep => hkeeps hstep) h

end Tables

/-! ## Whole runs -/

section Run

variable {σ : Type} {site : Site σ} {s s' : σ} {g : Generator} {snapshot : Snapshot}

theorem of_prepare_ok {sync : SyncResult} {plan : GenerationPlan}
    (h : Procedure.Runs site.step (g.prepare snapshot) s (.ok (sync, plan)) s') :
    ∃ fresh now now', (site.metadata s).sync fresh now snapshot = (site.metadata s', sync) ∧
      plan = .build (site.metadata s') sync g.includeUnchanged now' := by
  have h := Procedure.runs_left.1 h
  obtain ⟨result, s₁, hsync, h⟩ := Procedure.runs_bind_ok.1 h
  obtain ⟨found, s₂, hplan, h⟩ := Procedure.runs_bind_ok.1 h
  obtain ⟨hresult, rfl⟩ := Procedure.runs_pure.1 h
  cases hresult
  obtain ⟨fresh, now, hsync⟩ := Bookkeeping.of_sync_ok hsync
  obtain ⟨hkept, now', hplan⟩ := Bookkeeping.of_plan_ok hplan
  exact ⟨fresh, now, now', by rw [hkept]; exact hsync, by rw [hkept]; exact hplan⟩

/-- A run that ends with a report has synced, has run every planned table once, and has stamped
those that were generated. -/
theorem of_run_ok {report : RunReport}
    (h : Procedure.Runs site.step (g.run snapshot) s (.ok report) s') :
    ∃ fresh syncedAt plannedAt runs startedAt completedAt time,
      let synced := (site.metadata s).sync fresh syncedAt snapshot
      List.Forall₂ (Follows site.step g snapshot)
          (GenerationPlan.build synced.1 synced.2 g.includeUnchanged plannedAt).toGenerate runs ∧
        synced.1.markAllGenerated (TableRun.generatedKeys runs) time = .ok (site.metadata s') ∧
        report = .of startedAt completedAt synced.2 runs := by
  obtain ⟨startedAt, s₀, sync, plan, s₁, runs, s₂, s₃, s₄, completedAt, hstart, hprepare, hruns,
    hmark, hrecord, hend, rfl⟩ := stages_of_run h
  obtain ⟨fresh, syncedAt, plannedAt, hsync, rfl⟩ := of_prepare_ok hprepare
  have hkept := metadata_of_generateTables hruns
  obtain ⟨time, hstamped⟩ := Bookkeeping.of_markAllGenerated_ok (Procedure.runs_left.1 hmark)
  have hrecorded := Bookkeeping.of_recordHistory_ok (Procedure.runs_left.1 hrecord)
  have hended := Bookkeeping.runs_ask_machine (Procedure.runs_left.1 hend)
  refine ⟨fresh, syncedAt, plannedAt, runs, startedAt, completedAt, time, ?_⟩
  rw [← Bookkeeping.runs_ask_machine (Procedure.runs_left.1 hstart), hsync]
  refine ⟨follows_of_generateTables hruns, ?_, rfl⟩
  rw [← hkept, hstamped, hended, hrecorded]

end Run

end Generator

/-! ## Workplaces with metadata in memory -/

namespace Workplace

theorem answerProduction_keeps (call : production.Call) (w : Workplace) :
    (answerProduction call w).2.memory = w.memory ∧
      (answerProduction call w).2.keeper = w.keeper := by
  cases call with
  | render template context =>
    unfold answerProduction
    exact ⟨rfl, rfl⟩
  | write path content =>
    unfold answerProduction
    exact ⟨rfl, rfl⟩

/-- A workplace is a site as long as its metadata is in memory. -/
def inMemory : Site Workplace where
  machine := .ofAnswer answerMachine
  keeper call w reply w' := w.keeper = .memory ∧ answerRepository call w = (reply, w')
  production := .ofAnswer answerProduction
  metadata w := w.memory.state
  machine_keeps := by
    rintro call w reply w' ⟨⟩
    rfl
  production_keeps := by
    intro call w reply w' h
    have hkept := (answerProduction_keeps call w).1
    change answerProduction call w = (reply, w') at h
    rw [h] at hkept
    exact congrArg MetadataDocument.state hkept
  loads := by
    rintro ⟨_, _, _, _, _, _⟩ m w' ⟨rfl, ⟨⟩⟩
    exact ⟨rfl, rfl⟩
  persists := by
    rintro m ⟨_, _, _, _, _, _⟩ w' ⟨rfl, ⟨⟩⟩
    rfl
  marks := by
    rintro keys time ⟨_, _, _, memory, _, _⟩ w' ⟨rfl, h⟩
    change memory.state.markAllGenerated keys time = _
    cases hmark : memory.state.markAllGenerated keys time with
    | ok m =>
      simp only [answerRepository, Repository.Memory.answer, hmark] at h
      cases h
      rfl
    | error failure =>
      simp only [answerRepository, Repository.Memory.answer, hmark] at h
      cases h
  records := by
    rintro history ⟨_, _, _, _, _, _⟩ w' ⟨rfl, ⟨⟩⟩
    rfl

/-- What is answered at a workplace with metadata in memory, is answered at its site. -/
theorem inMemory_answer (call : generation.Call) (w : Workplace) (hw : w.keeper = .memory) :
    inMemory.step call w (answer call w).1 (answer call w).2 ∧
      (answer call w).2.keeper = .memory := by
  rcases call with (call | call) | call
  · exact ⟨rfl, hw⟩
  · refine ⟨⟨hw, rfl⟩, ?_⟩
    obtain ⟨keeper, _, _, _, _, _⟩ := w
    cases hw
    rfl
  · exact ⟨rfl, (answerProduction_keeps call w).2.trans hw⟩

theorem runs_inMemory {α : Type} (p : Procedure generation α) {w : Workplace}
    (hw : w.keeper = .memory) :
    Procedure.Runs inMemory.step p w (Script.run answer p.run w).1 (Script.run answer p.run w).2 ∧
      (Script.run answer p.run w).2.keeper = .memory :=
  Script.runs_run inMemory_answer hw

end Workplace

end SchemaCodegen
