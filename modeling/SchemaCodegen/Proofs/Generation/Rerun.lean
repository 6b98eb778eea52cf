import SchemaCodegen.Proofs.Generation.Staleness
import SchemaCodegen.Proofs.Generation.Works
import SchemaCodegen.Proofs.Metadata.Resync
import SchemaCodegen.Proofs.Repository.Document

/-!
# Running again

A run without failures leaves nothing to be done: the metadata is in line with the snapshot, and
every active table that is generated at all is stamped (`Generator.allDone_of_run`). A run over the
same snapshot that starts like this asks for nothing but to bring the metadata up to date
(`Generator.keeps_of_idle_run`), so at a site whose keeper works, the metadata differs by the times
of the last sync and nothing else is different (`Site.Works.rerun_idle`).
-/

namespace SchemaCodegen

namespace Metadata

variable {m m' : Metadata} {s : Snapshot}

/-- Nothing is left to be done for a snapshot. -/
structure AllDone (s : Snapshot) (m : Metadata) : Prop where
  inLine : InLine s m
  stamped : ∀ r ∈ m.activeTables, r.flags.any = true → r.lastGenerated.isSome = true

theorem WellFiled.markAllGenerated (h : m.WellFiled) {keys : List String} {time : Instant}
    (hmark : m.markAllGenerated keys time = .ok m') : m'.WellFiled := by
  intro key r hr
  obtain ⟨r₀, hr₀, hagrees, -⟩ := of_markAllGenerated hmark hr
  rw [hagrees.schemaName, hagrees.tableName]
  exact h hr₀

theorem activeTables_touch (now : Instant) {r' : TableRecord}
    (h : r' ∈ (m.touch now).activeTables) :
    ∃ r ∈ m.activeTables, r' = { r with lastSynced := now } := by
  obtain ⟨⟨key, hr'⟩, hactive⟩ := mem_activeTables.1 h
  rw [getElem?_touch, Option.map_eq_some_iff] at hr'
  obtain ⟨r, hr, rfl⟩ := hr'
  by_cases hr_active : r.isActive = true
  · rw [if_pos hr_active]
    exact ⟨r, mem_activeTables.2 ⟨⟨key, hr⟩, hr_active⟩, rfl⟩
  · rw [if_neg hr_active] at hactive
    exact absurd hactive hr_active

end Metadata

/-! ## Nothing to plan -/

namespace GenerationPlan

theorem requiresGeneration_reasonFor_iff {r : TableRecord} {isNew hasSchemaChanged : Bool} :
    (reasonFor r isNew hasSchemaChanged false).requiresGeneration = true ↔
      r.flags.any = true ∧ (isNew = true ∨ hasSchemaChanged = true ∨ r.lastGenerated = none) := by
  rw [requiresGeneration_reasonFor]
  simp [or_assoc]

theorem mem_toGenerate_iff {m : Metadata} {sync : SyncResult} {includeUnchanged : Bool}
    {now : Instant} {p : TablePlan} : p ∈ (build m sync includeUnchanged now).toGenerate ↔
      ∃ r ∈ m.activeTables, entry sync includeUnchanged r = p ∧
        (entry sync includeUnchanged r).requiresGeneration = true := by
  rw [toGenerate, List.mem_filter, build, List.mem_map]
  constructor
  · rintro ⟨⟨r, hr, rfl⟩, hrequires⟩
    exact ⟨r, hr, rfl, hrequires⟩
  · rintro ⟨r, hr, rfl, hrequires⟩
    exact ⟨⟨r, hr, rfl⟩, hrequires⟩

theorem mem_toGenerate_of_never {m : Metadata} {sync : SyncResult} {now : Instant}
    {r : TableRecord} (hr : r ∈ m.activeTables) (hflags : r.flags.any = true)
    (hnever : r.lastGenerated = none) :
    entry sync false r ∈ (build m sync false now).toGenerate :=
  mem_toGenerate_iff.2
    ⟨r, hr, rfl, requiresGeneration_reasonFor_iff.2 ⟨hflags, .inr (.inr hnever)⟩⟩

/-- Where nothing is left to be done and nothing is reported, nothing is planned. -/
theorem toGenerate_eq_nil {s : Snapshot} {m : Metadata} (h : m.AllDone s) {sync : SyncResult}
    (hnew : sync.newTables = []) (hmodified : sync.modifiedTables = []) (syncedAt now : Instant) :
    (build (m.touch syncedAt) sync false now).toGenerate = [] := by
  refine List.eq_nil_iff_forall_not_mem.2 fun p hp => ?_
  obtain ⟨r', hr', -, hrequires⟩ := mem_toGenerate_iff.1 hp
  obtain ⟨r, hr, rfl⟩ := Metadata.activeTables_touch syncedAt hr'
  have hreason := requiresGeneration_reasonFor_iff.1 hrequires
  rw [hnew, hmodified] at hreason
  obtain ⟨hflags, hnever⟩ := hreason
  have hstamped := h.stamped r hr hflags
  simp only [List.contains_nil, Bool.false_eq_true, Bool.or_self, false_or] at hnever
  rw [hnever] at hstamped
  cases hstamped

end GenerationPlan

namespace Generator

variable {σ : Type} {site : Site σ} {s s' : σ} {g : Generator} {snapshot : Snapshot}

/-- Where no table fails, all that was planned is stamped. -/
theorem key_mem_generatedKeys {step : generation.Step σ} {plans : List TablePlan}
    {runs : List TableRun} (h : List.Forall₂ (Follows step g snapshot) plans runs)
    (hclean : runs.filterMap TableRun.report? = []) {p : TablePlan} (hp : p ∈ plans) :
    p.key ∈ TableRun.generatedKeys runs := by
  induction h with
  | nil => cases hp
  | @cons plan r plans runs hfirst _ ih =>
    rw [List.filterMap_eq_nil_iff, List.forall_mem_cons, ← List.filterMap_eq_nil_iff] at hclean
    have hgen : r.isGenerated = true := by
      rw [TableRun.isGenerated, Option.isNone_iff_eq_none]
      exact Option.map_eq_none_iff.1 hclean.1
    rw [TableRun.generatedKeys, List.filter_cons, if_pos hgen, List.map_cons, List.mem_cons]
    rcases List.mem_cons.1 hp with rfl | hp
    · rw [← hfirst.plan_eq]
      exact .inl rfl
    · exact .inr (ih hclean.2 hp)

/-- A run without failures leaves nothing to be done. -/
theorem allDone_of_run (hfiled : (site.metadata s).WellFiled) (usable : snapshot.defect? = none)
    (hkeys : snapshot.HasDistinctKeys) (hunchanged : g.includeUnchanged = false)
    {report : RunReport} (h : Procedure.Runs site.step (g.run snapshot) s (.ok report) s')
    (hclean : report.failures = []) : (site.metadata s').AllDone snapshot := by
  obtain ⟨fresh, now, plannedAt, runs, startedAt, completedAt, time, hfollows, hmark, rfl⟩ :=
    of_run_ok h
  have hline := Metadata.inLine_sync fresh now (site.metadata s) usable hkeys
  have hsynced := hfiled.sync fresh now snapshot
  refine ⟨hline.markAllGenerated hmark, fun r' hr' hflags => ?_⟩
  obtain ⟨⟨key, hr'⟩, hactive⟩ := Metadata.mem_activeTables.1 hr'
  obtain ⟨-, hstamped⟩ := Metadata.markAllGenerated_eq_ok_iff.1 hmark
  rw [hstamped, Metadata.getElem?_foldl_stamp] at hr'
  split at hr'
  · obtain ⟨r, -, rfl⟩ := Option.map_eq_some_iff.1 hr'
    rfl
  · next hkey =>
    -- a record without a stamp would have been planned, and all that was planned was generated
    by_contra hnever
    rw [Bool.not_eq_true, Option.isSome_eq_false_iff, Option.isNone_iff_eq_none] at hnever
    have hactive := Metadata.mem_activeTables.2 ⟨⟨key, hr'⟩, hactive⟩
    refine hkey ?_
    rw [← hsynced hr']
    rw [hunchanged] at hfollows
    exact key_mem_generatedKeys hfollows hclean
      (GenerationPlan.mem_toGenerate_of_never hactive hflags hnever)

/-- A run that finds nothing to be done reports nothing but its sync, and changes nothing of the
metadata but the times of the last sync. -/
theorem of_idle_run (hdone : (site.metadata s).AllDone snapshot) (usable : snapshot.defect? = none)
    (hkeys : snapshot.HasDistinctKeys) (hunchanged : g.includeUnchanged = false)
    {report : RunReport} (h : Procedure.Runs site.step (g.run snapshot) s (.ok report) s') :
    ∃ startedAt completedAt sync now, report = .of startedAt completedAt sync [] ∧
      site.metadata s' = (site.metadata s).touch now := by
  obtain ⟨fresh, now, plannedAt, runs, startedAt, completedAt, time, hfollows, hmark, rfl⟩ :=
    of_run_ok h
  have htouched := hdone.inLine.sync_eq_touch fresh now usable hkeys
  have hnew := hdone.inLine.newTables_sync fresh now hkeys.tables
  have hmodified := hdone.inLine.modifiedTables_sync fresh now hkeys.tables
  rw [hunchanged, htouched, GenerationPlan.toGenerate_eq_nil hdone hnew hmodified,
    List.forall₂_nil_left_iff] at hfollows
  subst hfollows
  refine ⟨startedAt, completedAt, _, now, rfl, ?_⟩
  rw [← htouched]
  exact (Except.ok.inj hmark).symm

/-- What all answers to clerical questions keep, is kept by a run that finds nothing to be done. -/
theorem keeps_of_idle_run {P : σ → σ → Prop} (refl : ∀ s, P s s)
    (trans : ∀ {s t u}, P s t → P t u → P s u)
    (keeps : ∀ call s reply s', Clerical call → site.step call s reply s' → P s s')
    (hdone : (site.metadata s).AllDone snapshot) (usable : snapshot.defect? = none)
    (hkeys : snapshot.HasDistinctKeys) (hunchanged : g.includeUnchanged = false)
    {report : RunReport} (h : Procedure.Runs site.step (g.run snapshot) s (.ok report) s') :
    P s s' := by
  obtain ⟨_, _, _, _, hreport, -⟩ := of_idle_run hdone usable hkeys hunchanged h
  obtain ⟨startedAt, s₀, sync, plan, s₁, runs, s₂, s₃, s₄, completedAt, hstart, hprepare, hruns,
    hmark, hrecord, hend, rfl⟩ := stages_of_run h
  have hnone : runs = [] := List.length_eq_zero_iff.1 (congrArg RunReport.tablesPlanned hreport)
  subst hnone
  have hclock : (ofBookkeeping (.ofJob Job.clock)).Asks Clerical :=
    .left (Bookkeeping.asks_ofJob .clock)
  have hstarted : P s s₀ := hclock.keeps refl trans keeps hstart
  have hprepared : P s₀ s₁ := asks_prepare.keeps refl trans keeps hprepare
  have hended : P s₄ s' := hclock.keeps refl trans keeps hend
  -- without tables there is nothing to generate, to stamp or to record
  rw [List.forall₂_nil_right_iff.1 (follows_of_generateTables hruns)] at hruns
  obtain ⟨-, rfl⟩ := Script.runs_pure.1 hruns
  obtain ⟨-, rfl⟩ := Procedure.runs_pure.1 (Procedure.runs_left.1 hmark)
  obtain ⟨-, rfl⟩ := Procedure.runs_pure.1 (Procedure.runs_left.1 hrecord)
  exact trans hstarted (trans hprepared hended)

theorem wellFiled_of_run (hfiled : (site.metadata s).WellFiled) {report : RunReport}
    (h : Procedure.Runs site.step (g.run snapshot) s (.ok report) s') :
    (site.metadata s').WellFiled := by
  obtain ⟨fresh, now, plannedAt, runs, startedAt, completedAt, time, -, hmark, -⟩ := of_run_ok h
  exact (hfiled.sync fresh now snapshot).markAllGenerated hmark

end Generator

/-! ## The second of two runs -/

/-- A report on a run that had nothing to do. -/
structure RunReport.Idle (report : RunReport) : Prop where
  planned : report.tablesPlanned = 0
  generated : report.tablesGenerated = []
  written : report.filesWritten = []
  skipped : report.skippedProtected = []
  failures : report.failures = []
  history : report.history = []

theorem RunReport.idle_of (startedAt completedAt : Instant) (sync : SyncResult) :
    (RunReport.of startedAt completedAt sync []).Idle :=
  ⟨rfl, rfl, rfl, rfl, rfl, rfl⟩

/-- The disk of a site. Its keeper has the metadata in the document of a file, if it is on the disk
at all, and what the machine says of the time and of identities leaves the disk alone. -/
structure Site.OnDisk {σ : Type} (site : Site σ) where
  disk : σ → Disk
  document? : Option Path
  clock : ∀ {s time s'}, site.machine .clock s time s' → disk s' = disk s
  freshIds : ∀ {keys s fresh s'}, site.machine (.freshIds keys) s fresh s' → disk s' = disk s
  keeper : ∀ {call s reply s'}, site.keeper call s reply s' → disk s' = disk s ∨
    ∃ path, document? = some path ∧ Script.Runs (Repository.File.careful path)
      (Repository.File.answer path call) (disk s) reply (disk s')

/-- No file of a site is different but the document of its keeper. -/
def Site.OnDisk.SameFiles {σ : Type} {site : Site σ} (onDisk : site.OnDisk) (s s' : σ) : Prop :=
  Disk.SameFiles (onDisk.document? = some ·) (onDisk.disk s) (onDisk.disk s')

namespace Site.Works

variable {σ : Type} {site : Site σ} (works : site.Works) (onDisk : site.OnDisk) {s s' : σ}
  {g : Generator} {snapshot : Snapshot}

include works

/-- Clerical work touches no file but the document of the keeper. -/
theorem sameFiles_of_clerical {call : generation.Call} {reply : generation.Reply call}
    (hcall : Generator.Clerical call) (h : site.step call s reply s') :
    onDisk.SameFiles s s' := by
  cases hcall with
  | clock => exact .of_eq (onDisk.clock h)
  | freshIds keys => exact .of_eq (onDisk.freshIds h)
  | load =>
    rcases onDisk.keeper h with hsame | ⟨path, -, hruns⟩
    · exact .of_eq hsame
    · exact .of_eq (Repository.File.of_answer_load hruns)
  | persist m =>
    rcases onDisk.keeper h with hsame | ⟨path, hpath, hruns⟩
    · exact .of_eq hsame
    · cases works.persists h
      refine (Repository.File.of_changeDocument_ok hruns).mono ?_
      rintro _ rfl
      exact hpath

/-- After a run without failures, another one over the same snapshot has nothing to do: it cannot
fail, changes no file but the document of the keeper, adds nothing to the history, and of the
metadata it changes the times of the last sync of active tables. -/
theorem rerun_idle (hs : works.ready s) (hfiled : (site.metadata s).WellFiled)
    (usable : snapshot.defect? = none) (hkeys : snapshot.HasDistinctKeys)
    (hunchanged : g.includeUnchanged = false) {report : RunReport}
    (h : Procedure.Runs site.step (g.run snapshot) s (.ok report) s')
    (hclean : report.failures = []) :
    (∃ outcome s'', Procedure.Runs site.step (g.run snapshot) s' outcome s'') ∧
      ∀ {outcome s''}, Procedure.Runs site.step (g.run snapshot) s' outcome s'' →
        ∃ report' now, outcome = .ok report' ∧ report'.Idle ∧
          onDisk.SameFiles s' s'' ∧
          works.history s'' = works.history s' ∧
          site.metadata s'' = (site.metadata s').touch now := by
  refine ⟨works.exists_run (works.ready_of_run hs h), fun {outcome s''} hrerun => ?_⟩
  have hdone := Generator.allDone_of_run hfiled usable hkeys hunchanged h hclean
  cases outcome with
  | error failure =>
    exact absurd hrerun (works.succeeds_run (Generator.wellFiled_of_run hfiled h) failure s'')
  | ok report' =>
    obtain ⟨startedAt, completedAt, sync, now, rfl, hmetadata⟩ :=
      Generator.of_idle_run hdone usable hkeys hunchanged hrerun
    have hfiles : onDisk.SameFiles s' s'' :=
      Generator.keeps_of_idle_run (P := onDisk.SameFiles) (fun _ => .refl _ _)
        (fun h h' => Disk.SameFiles.trans h h')
        (fun _ _ _ _ hcall hstep => works.sameFiles_of_clerical onDisk hcall hstep)
        hdone usable hkeys hunchanged hrerun
    have hhistory := works.history_of_run hrerun
    rw [(RunReport.idle_of startedAt completedAt sync).history, List.append_nil] at hhistory
    exact ⟨_, now, rfl, RunReport.idle_of startedAt completedAt sync, hfiles, hhistory, hmetadata⟩

end Site.Works

/-- With the metadata in memory nothing of it is on the disk. -/
def Workplace.onDisk : inMemory.OnDisk where
  disk w := w.world.disk
  document? := none
  clock := by
    rintro w time w' ⟨⟩
    rfl
  freshIds := by
    rintro keys w fresh w' ⟨⟩
    rfl
  keeper := by
    rintro call ⟨_, _, _, _, _, _⟩ w' reply ⟨rfl, ⟨⟩⟩
    exact .inl rfl

namespace MissedChange

set_option maxRecDepth 100000 in
theorem failures_generated :
    generated.1.map (fun report => report.failures.map TableFailure.tableName) = .ok [] := by
  decide +kernel

/-- After the one table was generated, nothing is left to be done. -/
theorem rerun_idle_furnished : Workplace.works.ready furnished ∧
    (Workplace.inMemory.metadata furnished).WellFiled ∧ (snapshotOf (keyed "id")).defect? = none ∧
    (snapshotOf (keyed "id")).HasDistinctKeys ∧ oneArtifact.includeUnchanged = false ∧
    ∃ report, Procedure.Runs Workplace.inMemory.step (oneArtifact.run (snapshotOf (keyed "id")))
        furnished (.ok report) generated.2 ∧
      report.failures = [] ∧
      ∃ outcome w report' now, Procedure.Runs Workplace.inMemory.step
          (oneArtifact.run (snapshotOf (keyed "id"))) generated.2 outcome w ∧
        outcome = .ok report' ∧ report'.Idle ∧
        Workplace.onDisk.SameFiles generated.2 w ∧
        Workplace.works.history w = Workplace.works.history generated.2 ∧
        Workplace.inMemory.metadata w = (Workplace.inMemory.metadata generated.2).touch now := by
  obtain ⟨report, hreport, hclean⟩ := exists_of_map_eq_ok failures_generated
  have hfiled : (Workplace.inMemory.metadata furnished).WellFiled := fun _ _ hr => nomatch hr
  have hkeys : (snapshotOf (keyed "id")).HasDistinctKeys := ⟨by decide, by decide, by decide⟩
  have hruns := (Workplace.runs_inMemory (oneArtifact.run (snapshotOf (keyed "id")))
    (w := furnished) rfl).1
  change Procedure.Runs _ _ furnished generated.1 generated.2 at hruns
  rw [hreport] at hruns
  have hready : Workplace.works.ready furnished := rfl
  have hclean := List.map_eq_nil_iff.1 hclean
  obtain ⟨⟨outcome, w, hrerun⟩, hidle⟩ :=
    Workplace.works.rerun_idle Workplace.onDisk hready hfiled rfl hkeys rfl hruns hclean
  obtain ⟨report', now, hrest⟩ := hidle hrerun
  exact ⟨hready, hfiled, rfl, hkeys, rfl, report, hruns, hclean, outcome, w, report', now, hrerun,
    hrest⟩

end MissedChange

/-! ## A record under the key of another table -/

namespace Misfiled

open MissedChange

def other : Table :=
  ⟨"Other", "dbo", [], [], ["id"]⟩

def snapshot : Snapshot :=
  { snapshotOf (keyed "id") with tables := [keyed "id", other] }

/-- A workplace where the record of one table stands under the key of the other. -/
def workplace : Workplace :=
  { furnished with
    memory :=
      { state :=
          { Metadata.empty with
            tables :=
              (∅ : Filed TableRecord).insert "dbo.Item"
                (.create (Uuid.ofNumber 7) "" default other) }
        history := [] } }

def first : Outcome RunReport × Workplace :=
  workplace.run oneArtifact snapshot

def second : Outcome RunReport × Workplace :=
  first.2.run oneArtifact snapshot

set_option maxRecDepth 100000 in
theorem outcomes : first.1.map (fun report => report.failures.map TableFailure.tableName) = .ok [] ∧
    second.1.map (fun report =>
      (report.tablesPlanned, report.filesWritten.map (·.backup.isSome), report.history.length)) =
        .ok (1, [true], 1) := by
  decide +kernel

/-- Both entries of the plan have the key of the one name, so the other record is never stamped: it
is planned again after every run without failures, with one more backup and one more record. -/
theorem planned_again : Workplace.works.ready workplace ∧ snapshot.defect? = none ∧
    snapshot.HasDistinctKeys ∧ oneArtifact.includeUnchanged = false ∧
    ∃ report report',
      Procedure.Runs Workplace.inMemory.step (oneArtifact.run snapshot) workplace (.ok report)
        first.2 ∧
      report.failures = [] ∧
      Procedure.Runs Workplace.inMemory.step (oneArtifact.run snapshot) first.2 (.ok report')
        second.2 ∧
      report'.tablesPlanned = 1 ∧ report'.filesWritten.map (·.backup.isSome) = [true] ∧
        report'.history.length = 1 := by
  obtain ⟨report, hreport, hclean⟩ := exists_of_map_eq_ok outcomes.1
  obtain ⟨report', hreport', hagain⟩ := exists_of_map_eq_ok outcomes.2
  rw [Prod.mk.injEq, Prod.mk.injEq] at hagain
  have hfirst := Workplace.runs_inMemory (oneArtifact.run snapshot) (w := workplace) rfl
  have hsecond := (Workplace.runs_inMemory (oneArtifact.run snapshot) hfirst.2).1
  refine ⟨rfl, rfl, ⟨by decide, by decide, by decide⟩, rfl, report, report', ?_,
    List.map_eq_nil_iff.1 hclean, ?_, hagain⟩
  · rw [← hreport]
    exact hfirst.1
  · rw [← hreport']
    exact hsecond

end Misfiled

end SchemaCodegen
