import SchemaCodegen.Proofs.Generation.Planning
import SchemaCodegen.Proofs.Generation.Site

/-!
# Sites whose keepers work

At a site that `Works` the keeper fails for nothing but keys that it does not know, and the history
that it keeps is changed only by what is recorded. So a run there cannot fail as long as records
stand under the keys of their names (`Works.succeeds_run`), whatever becomes of rendering and
writing, and the history grows by the one of its report (`Works.history_of_run`).
-/

namespace SchemaCodegen

namespace Generator

/-- What is asked to bring the metadata in line with a snapshot and to plan. -/
inductive Clerical : generation.Call → Prop where
  | clock : Clerical (.inl (.inl .clock))
  | freshIds (keys : List RecordKey) : Clerical (.inl (.inl (.freshIds keys)))
  | load : Clerical (.inl (.inr .load))
  | persist (m : Metadata) : Clerical (.inl (.inr (.persist m)))

/-- Whether a question of a run leaves the history alone. -/
def Quiet (call : generation.Call) : Prop :=
  ∀ records, call ≠ .inl (.inr (Repository.Call.recordHistory records))

theorem Clerical.quiet {call : generation.Call} (h : Clerical call) : Quiet call := by
  rintro records rfl
  cases h

end Generator

namespace Bookkeeping

variable {allowed : bookkeeping.Call → Prop}

theorem asks_ofJob {call : Machine.Call} (h : allowed (.inl call)) :
    (ofJob (Job.ask call)).Asks allowed :=
  .left (.ofScript (.call h))

theorem asks_ask {call : Repository.Call} (h : allowed (.inr call)) :
    (ask call).Asks allowed :=
  .right (.call h)

end Bookkeeping

theorem Generator.asks_prepare {g : Generator} {snapshot : Snapshot} :
    (g.prepare snapshot).Asks Clerical := by
  have hload : Bookkeeping.load.Asks fun call => Clerical (.inl call) :=
    Bookkeeping.asks_ask .load
  refine .left (.bind (.bind hload fun m => ?_) fun sync => .bind ?_ fun plan => .pure _)
  · refine .bind (Bookkeeping.asks_ofJob .clock) fun now =>
      .bind (Bookkeeping.asks_ofJob (.freshIds _)) fun fresh => ?_
    exact .bind (Bookkeeping.asks_ask (.persist _)) fun _ => .pure _
  · exact .bind hload fun m => .bind (Bookkeeping.asks_ofJob .clock) fun now => .pure _

/-- A keeper that does what it is asked, at a site where all questions are answered as long as it
is `ready`. -/
structure Site.Works {σ : Type} (site : Site σ) where
  ready : σ → Prop
  history : σ → List HistoryRecord
  answers : ∀ call s, ready s → ∃ reply s', site.step call s reply s'
  stays : ∀ {call s reply s'}, site.step call s reply s' → ready s → ready s'
  loads : ∀ {s s'} {outcome : Outcome Metadata}, site.keeper .load s outcome s' →
    ∃ m, outcome = .ok m
  persists : ∀ {m s s'} {outcome : Outcome Unit}, site.keeper (.persist m) s outcome s' →
    outcome = .ok ()
  marks : ∀ {keys time s s'} {outcome : Outcome Unit},
    site.keeper (.markGenerated keys time) s outcome s' →
      (∀ key ∈ keys, key ∈ (site.metadata s).tables) → outcome = .ok ()
  records : ∀ {records s s'} {outcome : Outcome Unit},
    site.keeper (.recordHistory records) s outcome s' →
      outcome = .ok () ∧ history s' = history s ++ records
  keeps : ∀ {call s reply s'}, Generator.Quiet call → site.step call s reply s' →
    history s' = history s

/-- Whatever is planned is known, if records stand under the keys of their names. -/
theorem Generator.key_mem_of_prepare {σ : Type} {site : Site σ} {s s' : σ} {g : Generator}
    {snapshot : Snapshot} {sync : SyncResult} {plan : GenerationPlan}
    (hfiled : (site.metadata s).WellFiled)
    (h : Procedure.Runs site.step (g.prepare snapshot) s (.ok (sync, plan)) s') :
    ∀ p ∈ plan.tables, p.key ∈ (site.metadata s').tables := by
  obtain ⟨fresh, now, plannedAt, hsync, rfl⟩ := Generator.of_prepare_ok h
  have hsynced := hfiled.sync fresh now snapshot
  rw [hsync] at hsynced
  exact fun p => GenerationPlan.mem_tables_of_mem hsynced

namespace Site.Works

variable {σ : Type} {site : Site σ} (works : site.Works) {s s' : σ} {g : Generator}
  {snapshot : Snapshot}

/-! ## Bookkeeping cannot fail -/

theorem succeeds_askMachine (call : Machine.Call) :
    Procedure.Succeeds site.books (Bookkeeping.ofJob (Job.ask call)) s :=
  fun _ _ h => Procedure.not_runs_ofScript_error (Procedure.runs_left.1 h)

include works

theorem succeeds_load : Procedure.Succeeds site.books Bookkeeping.load s := by
  intro failure s' h
  obtain ⟨m, hm⟩ := works.loads (Bookkeeping.runs_ask.1 h)
  cases hm

theorem succeeds_persist (m : Metadata) :
    Procedure.Succeeds site.books (Bookkeeping.persist m) s := by
  intro failure s' h
  cases works.persists (Bookkeeping.runs_ask.1 h)

theorem succeeds_sync : Procedure.Succeeds site.books (Bookkeeping.sync snapshot) s := by
  refine works.succeeds_load.bind fun m _ _ => ?_
  refine (succeeds_askMachine _).bind fun now _ _ => ?_
  refine (succeeds_askMachine _).bind fun fresh _ _ => ?_
  exact (works.succeeds_persist _).bind fun _ _ _ => .pure _

theorem succeeds_plan (sync : SyncResult) (includeUnchanged : Bool) :
    Procedure.Succeeds site.books (Bookkeeping.plan sync includeUnchanged) s := by
  refine works.succeeds_load.bind fun m _ _ => ?_
  exact (succeeds_askMachine _).bind fun now _ _ => .pure _

theorem succeeds_markAllGenerated {keys : List String}
    (h : ∀ key ∈ keys, key ∈ (site.metadata s).tables) :
    Procedure.Succeeds site.books (Bookkeeping.markAllGenerated keys) s := by
  unfold Bookkeeping.markAllGenerated
  split
  · exact .pure _
  · refine (succeeds_askMachine _).bind fun time t hclock failure s' hmark => ?_
    rw [← Bookkeeping.runs_ask_machine hclock] at h
    cases works.marks (Bookkeeping.runs_ask.1 hmark) h

theorem succeeds_recordHistory (records : List HistoryRecord) :
    Procedure.Succeeds site.books (Bookkeeping.recordHistory records) s := by
  unfold Bookkeeping.recordHistory
  split
  · exact .pure _
  · intro failure s' h
    cases (works.records (Bookkeeping.runs_ask.1 h)).1

theorem succeeds_prepare : Procedure.Succeeds site.step (g.prepare snapshot) s :=
  .left (works.succeeds_sync.bind fun _ _ _ => (works.succeeds_plan _ _).bind fun _ _ _ => .pure _)

/-- A run cannot fail if records stand under the keys of their names. -/
theorem succeeds_run (hfiled : (site.metadata s).WellFiled) :
    Procedure.Succeeds site.step (g.run snapshot) s := by
  refine (Procedure.Succeeds.left (succeeds_askMachine _)).bind fun startedAt s₀ hstart => ?_
  refine works.succeeds_prepare.bind fun ⟨sync, plan⟩ s₁ hprepare => ?_
  refine (Procedure.Succeeds.ofScript _).bind fun runs s₂ hruns => ?_
  have hruns := Procedure.runs_ofScript_ok.1 hruns
  have hknown : ∀ p ∈ plan.tables, p.key ∈ (site.metadata s₁).tables := by
    rw [← Bookkeeping.runs_ask_machine (Procedure.runs_left.1 hstart)] at hfiled
    exact Generator.key_mem_of_prepare hfiled hprepare
  refine (Procedure.Succeeds.left (works.succeeds_markAllGenerated fun key hkey => ?_)).bind
    fun _ s₃ _ => ?_
  · obtain ⟨r, hr, rfl⟩ := List.mem_map.1 hkey
    obtain ⟨plan', hplan', hfollows⟩ := Generator.exists_mem_of_forall₂
      (Generator.follows_of_generateTables hruns) (List.mem_filter.1 hr).1
    obtain rfl := hfollows.plan_eq
    rw [Generator.metadata_of_generateTables hruns]
    exact hknown _ (List.mem_filter.1 hplan').1
  refine (Procedure.Succeeds.left (works.succeeds_recordHistory _)).bind fun _ s₄ _ => ?_
  exact (Procedure.Succeeds.left (succeeds_askMachine _)).bind fun _ _ _ => .pure _

theorem exists_run (hs : works.ready s) :
    ∃ outcome s', Procedure.Runs site.step (g.run snapshot) s outcome s' :=
  Script.exists_runs works.answers works.stays _ hs

theorem ready_of_run {outcome : Outcome RunReport} (hs : works.ready s)
    (h : Procedure.Runs site.step (g.run snapshot) s outcome s') : works.ready s' :=
  Script.Runs.keeps (P := fun s s' => works.ready s → works.ready s') (fun _ h => h)
    (fun h h' hs => h' (h hs)) (fun _ _ _ _ => works.stays) h hs

/-! ## The history -/

omit works in
theorem asks_markAllGenerated (keys : List String) :
    (Bookkeeping.markAllGenerated keys).Asks fun call => Generator.Quiet (.inl call) := by
  unfold Bookkeeping.markAllGenerated
  split
  · exact .pure _
  · exact .bind (Bookkeeping.asks_ofJob fun _ h => nomatch h) fun time =>
      Bookkeeping.asks_ask fun _ h => nomatch h

theorem history_of_asks {α : Type} {p : Procedure generation α} {outcome : Outcome α}
    (h : p.Asks Generator.Quiet) (hruns : Procedure.Runs site.step p s outcome s') :
    works.history s' = works.history s :=
  Script.Asks.keeps (P := fun s s' => works.history s' = works.history s) h (fun _ => rfl)
    (fun h h' => h'.trans h) (fun _ _ _ _ => works.keeps) hruns

/-- The history grows by that of the report. -/
theorem history_of_run {report : RunReport}
    (h : Procedure.Runs site.step (g.run snapshot) s (.ok report) s') :
    works.history s' = works.history s ++ report.history := by
  obtain ⟨startedAt, s₀, sync, plan, s₁, runs, s₂, s₃, s₄, completedAt, hstart, hprepare, hruns,
    hmark, hrecord, hend, rfl⟩ := Generator.stages_of_run h
  have hclock : (Generator.ofBookkeeping (.ofJob Job.clock)).Asks Generator.Quiet :=
    .left (Bookkeeping.asks_ofJob fun _ h => nomatch h)
  have hquiet : (g.prepare snapshot).Asks Generator.Quiet :=
    Generator.asks_prepare.mono fun _ => Generator.Clerical.quiet
  have hgenerate : (Procedure.ofScript (g.generateTables snapshot plan.toGenerate)).Asks
      Generator.Quiet :=
    .ofScript (Generator.asks_generateTables (fun _ _ h => nomatch h) (fun _ _ _ h => nomatch h)
      (fun _ _ _ _ _ _ h => nomatch h) _)
  have hrecorded : works.history s₄ = works.history s₃ ++ TableRun.history runs := by
    have hrecord := Procedure.runs_left.1 hrecord
    unfold Bookkeeping.recordHistory at hrecord
    by_cases hempty : (TableRun.history runs).isEmpty
    · rw [if_pos hempty] at hrecord
      obtain ⟨-, rfl⟩ := Procedure.runs_pure.1 hrecord
      rw [List.isEmpty_iff.1 hempty, List.append_nil]
    · rw [if_neg hempty] at hrecord
      exact (works.records (Bookkeeping.runs_ask.1 hrecord)).2
  calc works.history s'
      = works.history s₄ := works.history_of_asks hclock hend
    _ = works.history s₃ ++ TableRun.history runs := hrecorded
    _ = works.history s₂ ++ TableRun.history runs := by
      rw [works.history_of_asks (.left (asks_markAllGenerated _)) hmark]
    _ = works.history s₁ ++ TableRun.history runs := by
      rw [works.history_of_asks hgenerate (Procedure.runs_ofScript_ok.2 hruns)]
    _ = works.history s₀ ++ TableRun.history runs := by
      rw [works.history_of_asks hquiet hprepare]
    _ = works.history s ++ TableRun.history runs := by
      rw [works.history_of_asks hclock hstart]

end Site.Works

/-! ## Workplaces with metadata in memory -/

namespace Workplace

theorem keeper_of_step {call : generation.Call} {w w' : Workplace} {reply : generation.Reply call}
    (h : inMemory.step call w reply w') (hw : w.keeper = .memory) : w'.keeper = .memory := by
  rcases call with (call | call) | call
  · cases h
    exact hw
  · obtain ⟨hkeeper, h⟩ := h
    have hkept := (inMemory_answer (.inl (.inr call)) w hw).2
    change (answerRepository call w).2.keeper = .memory at hkept
    rwa [h] at hkept
  · have hkept := (answerProduction_keeps call w).2
    change answerProduction call w = (reply, w') at h
    rw [h] at hkept
    exact hkept.trans hw

theorem history_of_step {call : generation.Call} {w w' : Workplace}
    {reply : generation.Reply call} (hquiet : Generator.Quiet call)
    (h : inMemory.step call w reply w') : w'.memory.history = w.memory.history := by
  rcases call with (call | call) | call
  · cases h
    rfl
  · obtain ⟨hkeeper, h⟩ := h
    obtain ⟨_, _, _, memory, _, _⟩ := w
    cases hkeeper
    cases call with
    | markGenerated keys time =>
      cases hmark : memory.state.markAllGenerated keys time with
      | ok m =>
        simp only [answerRepository, Repository.Memory.answer, hmark] at h
        cases h
        rfl
      | error failure =>
        simp only [answerRepository, Repository.Memory.answer, hmark] at h
        cases h
        rfl
    | recordHistory records => exact absurd rfl (hquiet records)
    | load | persist m | history table =>
      cases h
      rfl
  · have hkept := (answerProduction_keeps call w).1
    change answerProduction call w = (reply, w') at h
    rw [h] at hkept
    exact congrArg MetadataDocument.history hkept

/-- A workplace works as long as its metadata is in memory. -/
def works : inMemory.Works where
  ready w := w.keeper = .memory
  history w := w.memory.history
  answers call w hw := ⟨_, _, (inMemory_answer call w hw).1⟩
  stays := keeper_of_step
  loads := by
    rintro ⟨_, _, _, _, _, _⟩ w' outcome ⟨rfl, ⟨⟩⟩
    exact ⟨_, rfl⟩
  persists := by
    rintro m ⟨_, _, _, _, _, _⟩ w' outcome ⟨rfl, ⟨⟩⟩
    rfl
  marks := by
    rintro keys time ⟨_, _, _, memory, _, _⟩ w' outcome ⟨rfl, h⟩ hknown
    have hmark : memory.state.markAllGenerated keys time = _ :=
      Metadata.markAllGenerated_eq_ok_iff.2 ⟨hknown, rfl⟩
    simp only [answerRepository, Repository.Memory.answer, hmark] at h
    cases h
    rfl
  records := by
    rintro records ⟨_, _, _, _, _, _⟩ w' outcome ⟨rfl, ⟨⟩⟩
    exact ⟨rfl, rfl⟩
  keeps := history_of_step

end Workplace

end SchemaCodegen
