import Mathlib.Data.List.Flatten
import SchemaCodegen.Proofs.Generation.Attempts
import SchemaCodegen.Proofs.Generation.Staleness
import SchemaCodegen.Proofs.Output.Faults

/-!
# What a report lists

Every attempt goes to the history of a report, but the lists of files that were written or found
protected are put together from the tables that were generated (`report_lists`). What was written
for a table before an artifact of it failed is on the disk and in the history, and in no list
(`written_not_listed`).
-/

namespace SchemaCodegen

namespace Output

-- How paths are put together does not matter here, and unfolding them takes long.
attribute [local irreducible] Path.realParent?

/-- A writing reports the path that it was asked to write to. -/
theorem path_of_replaceContent {σ : Type} {step : machine.Step σ} {s s' : σ} {path : Path}
    {content : String} {w : Written}
    (h : Procedure.Runs step (replaceContent path content) s (.ok w) s') : w.path = path := by
  obtain ⟨_, s₁, -, h⟩ := Procedure.runs_bind_ok.1 h
  obtain ⟨_, s₂, -, h⟩ := Procedure.runs_bind_ok.1 h
  obtain ⟨id, s₃, -, h⟩ := Procedure.runs_bind_ok.1 h
  obtain ⟨_, s₄, -, h⟩ := Procedure.runs_bind_ok.1 (Job.runs_orElseRun_ok.1 h)
  obtain ⟨backup, s₅, -, h⟩ := Procedure.runs_bind_ok.1 h
  obtain ⟨_, s₆, -, h⟩ := Procedure.runs_bind_ok.1 h
  obtain ⟨hwritten, -⟩ := Procedure.runs_pure.1 h
  cases hwritten
  rfl

theorem path_of_write {σ : Type} {step : writing.Step σ} {s s' : σ} {path : Path}
    {content : String} {w : Written}
    (h : Procedure.Runs step (write path content) s (.ok w) s') : w.path = path := by
  obtain ⟨_, s₁, -, h⟩ := Procedure.runs_bind_ok.1 h
  obtain ⟨base, s₂, -, h⟩ := Procedure.runs_bind_ok.1 h
  obtain ⟨lock, s₃, -, h⟩ := Script.runs_bind.1 h
  obtain ⟨_, s₄, -, h⟩ := Script.runs_bind.1 h
  obtain ⟨outcome, s₅, hjob, h⟩ := Script.runs_bind.1 h
  obtain ⟨_, s₆, -, h⟩ := Script.runs_bind.1 h
  obtain ⟨rfl, -⟩ := Script.runs_pure.1 h
  exact path_of_replaceContent (Procedure.runs_left.1 hjob)

end Output

namespace Generator

/-- Whoever is asked to write a file does so as writers do, on some machine. -/
def WritesFiles {σ : Type} (step : generation.Step σ) : Prop :=
  ∀ ⦃path : Path⦄ ⦃content : String⦄ ⦃s : σ⦄ ⦃outcome : Outcome Output.Written⦄ ⦃s' : σ⦄,
    Script.Runs step (produce (.write path content)) s outcome s' →
      ∃ (τ : Type) (disk : Output.writing.Step τ) (d d' : τ),
        Procedure.Runs disk (Output.write path content) d outcome d'

end Generator

/-- The output paths of the records with an outcome. -/
def HistoryRecord.pathsOf (outcome : GenerationOutcome) (records : List HistoryRecord) :
    List String :=
  (records.filter (·.outcome = outcome)).map HistoryRecord.outputPath

open HistoryRecord (pathsOf)

/-- The report lists what was written and what was found protected for the tables that were
generated, and so for all tables only if nothing was for the others. -/
structure RunReport.Lists (report : RunReport) (runs : List TableRun) : Prop where
  written : report.filesWritten.map (·.path.text) =
    pathsOf .written (TableRun.history (runs.filter TableRun.isGenerated))
  skipped : report.skippedProtected.map Path.text =
    pathsOf .skippedProtected (TableRun.history (runs.filter TableRun.isGenerated))
  all_written_iff : report.filesWritten.map (·.path.text) = pathsOf .written report.history ↔
    ∀ r ∈ runs, r.isGenerated = false → ∀ a ∈ r.attempts, a.record.outcome ≠ .written
  all_skipped_iff : report.skippedProtected.map Path.text =
      pathsOf .skippedProtected report.history ↔
    ∀ r ∈ runs, r.isGenerated = false → ∀ a ∈ r.attempts, a.record.outcome ≠ .skippedProtected

theorem flatMap_filter_eq_flatMap_iff {α β : Type} {p : α → Bool} {f : α → List β} {l : List α} :
    (l.filter p).flatMap f = l.flatMap f ↔ ∀ a ∈ l, p a = false → f a = [] := by
  induction l with
  | nil => simp
  | cons a l ih =>
    rw [List.forall_mem_cons, ← ih, List.flatMap_cons, List.filter_cons]
    cases hp : p a with
    | true => simp
    | false =>
      rw [if_neg Bool.false_ne_true]
      constructor
      · intro h
        have hsub : ((l.filter p).flatMap f).Sublist (l.flatMap f) := List.filter_sublist.flatMap f
        have hlength := hsub.length_le
        have hnil : f a = [] := by
          have := congrArg List.length h
          rw [List.length_append] at this
          exact List.length_eq_zero_iff.1 (by omega)
        refine ⟨fun _ => hnil, ?_⟩
        rwa [hnil, List.nil_append] at h
      · rintro ⟨hnil, h⟩
        rw [hnil rfl, List.nil_append, h]

namespace TableRun

theorem pathsOf_history (outcome : GenerationOutcome) (runs : List TableRun) :
    pathsOf outcome (history runs) =
      runs.flatMap fun r => pathsOf outcome (r.attempts.map Attempt.record) := by
  rw [pathsOf, history, List.filter_flatMap, List.map_flatMap]
  rfl

/-- A list made from generated tables is that of all tables only if it has nothing of the others. -/
theorem pathsOf_history_filter_eq_iff {outcome : GenerationOutcome} {runs : List TableRun} :
    pathsOf outcome (history (runs.filter isGenerated)) = pathsOf outcome (history runs) ↔
      ∀ r ∈ runs, r.isGenerated = false → ∀ a ∈ r.attempts, a.record.outcome ≠ outcome := by
  rw [pathsOf_history, pathsOf_history, flatMap_filter_eq_flatMap_iff]
  simp [pathsOf]

end TableRun

namespace Generator

section Lists

variable {σ : Type} {step : generation.Step σ} {s s' : σ} {g : Generator} {t : TableContext}
  {snapshot : Snapshot}

attribute [local irreducible] outputPath

/-- What attempts made of artifacts is what their records say, if it is for each of them. -/
theorem map_filterMap_eq_pathsOf {ν : Type} {view : ArtifactResult → Option ν} {text : ν → String}
    {outcome : GenerationOutcome} {attempts : List Attempt}
    (h : ∀ a ∈ attempts, (view a.result).map text =
      if a.record.outcome = outcome then some a.record.outputPath else none) :
    (attempts.filterMap fun a => view a.result).map text =
      pathsOf outcome (attempts.map Attempt.record) := by
  induction attempts with
  | nil => rfl
  | cons a attempts ih =>
    rw [List.forall_mem_cons] at h
    rw [pathsOf, List.map_cons, List.filter_cons, List.filterMap_cons]
    have hfirst := h.1
    cases hview : view a.result with
    | none =>
      rw [hview, Option.map_none] at hfirst
      have hother : a.record.outcome ≠ outcome := fun heq => by simp [heq] at hfirst
      simpa [hother, pathsOf] using ih h.2
    | some found =>
      rw [hview, Option.map_some] at hfirst
      have hsame : a.record.outcome = outcome := by
        by_contra hother
        simp [hother] at hfirst
      rw [if_pos hsame, Option.some_inj] at hfirst
      simpa [hsame, hfirst, pathsOf] using ih h.2

theorem Tells.map_written? (hwrites : WritesFiles step) {artifact : ArtifactSpec} {a : Attempt}
    (h : Tells step g t artifact a) : a.result.written?.map (·.path.text) =
      if a.record.outcome = .written then some a.record.outputPath else none := by
  rw [h.outcome]
  cases hresult : a.result with
  | written w =>
    obtain ⟨content, s, s', hproduce⟩ := h.written hresult
    obtain ⟨τ, disk, d, d', hwrite⟩ := hwrites hproduce
    rw [h.outputPath, ← Output.path_of_write hwrite]
    rfl
  | skipped path => rfl
  | failed failure => rfl

theorem Tells.map_skipped? {artifact : ArtifactSpec} {a : Attempt}
    (h : Tells step g t artifact a) : a.result.skipped?.map Path.text =
      if a.record.outcome = .skippedProtected then some a.record.outputPath else none := by
  rw [h.outcome]
  cases hresult : a.result with
  | written w => rfl
  | skipped path =>
    rw [h.outputPath, ← h.skipped hresult]
    rfl
  | failed failure => rfl

theorem Follows.exists_tells {plan : TablePlan} {r : TableRun}
    (h : Follows step g snapshot plan r) {a : Attempt} (ha : a ∈ r.attempts) :
    ∃ t artifact, Tells step g t artifact a := by
  cases h with
  | missing _ _ => cases ha
  | found _ attempted =>
    obtain ⟨artifact, -, htells⟩ := attempted.exists_tells ha
    exact ⟨_, artifact, htells⟩

/-- The lists of a report have what the attempts made of artifacts, for each table. -/
theorem lists_of_follows (hwrites : WritesFiles step) {plans : List TablePlan}
    {runs : List TableRun} (h : List.Forall₂ (Follows step g snapshot) plans runs)
    (startedAt completedAt : Instant) (sync : SyncResult) :
    (RunReport.of startedAt completedAt sync runs).Lists runs := by
  have htells : ∀ r ∈ runs.filter TableRun.isGenerated, ∀ a ∈ r.attempts,
      ∃ t artifact, Tells step g t artifact a := by
    intro r hr a ha
    obtain ⟨plan, -, hfollows⟩ := exists_mem_of_forall₂ h (List.mem_filter.1 hr).1
    exact hfollows.exists_tells ha
  have hwritten : (RunReport.of startedAt completedAt sync runs).filesWritten.map (·.path.text) =
      pathsOf .written (TableRun.history (runs.filter TableRun.isGenerated)) := by
    rw [TableRun.pathsOf_history, RunReport.of, List.map_flatMap]
    refine List.flatMap_congr fun r hr => map_filterMap_eq_pathsOf fun a ha => ?_
    obtain ⟨t, artifact, htells⟩ := htells r hr a ha
    exact htells.map_written? hwrites
  have hskipped : (RunReport.of startedAt completedAt sync runs).skippedProtected.map Path.text =
      pathsOf .skippedProtected (TableRun.history (runs.filter TableRun.isGenerated)) := by
    rw [TableRun.pathsOf_history, RunReport.of, List.map_flatMap]
    refine List.flatMap_congr fun r hr => map_filterMap_eq_pathsOf fun a ha => ?_
    obtain ⟨t, artifact, htells⟩ := htells r hr a ha
    exact htells.map_skipped?
  refine ⟨hwritten, hskipped, ?_, ?_⟩
  · rw [hwritten]
    exact TableRun.pathsOf_history_filter_eq_iff
  · rw [hskipped]
    exact TableRun.pathsOf_history_filter_eq_iff

/-- A run that ends with a report has gone through its plans, table by table. -/
theorem exists_follows_of_run {report : RunReport}
    (h : Procedure.Runs step (g.run snapshot) s (.ok report) s') :
    ∃ plans runs startedAt completedAt sync, List.Forall₂ (Follows step g snapshot) plans runs ∧
      report = .of startedAt completedAt sync runs := by
  obtain ⟨startedAt, s₀, sync, plan, s₁, runs, s₂, s₃, s₄, completedAt, -, -, hruns, -, -, -,
    rfl⟩ := stages_of_run h
  exact ⟨plan.toGenerate, runs, startedAt, completedAt, sync, follows_of_generateTables hruns, rfl⟩

/-- A report lists the files of the tables that were generated, as the history has them, and those
of all tables exactly if none was written, or found protected, for a table that was given up. -/
theorem report_lists (hwrites : WritesFiles step) {report : RunReport}
    (h : Procedure.Runs step (g.run snapshot) s (.ok report) s') :
    ∃ plans runs startedAt completedAt sync, List.Forall₂ (Follows step g snapshot) plans runs ∧
      report = .of startedAt completedAt sync runs ∧ report.Lists runs := by
  obtain ⟨plans, runs, startedAt, completedAt, sync, hfollows, rfl⟩ := exists_follows_of_run h
  exact ⟨plans, runs, startedAt, completedAt, sync, hfollows, rfl,
    lists_of_follows hwrites hfollows startedAt completedAt sync⟩

end Lists

end Generator

theorem Workplace.writesFiles : Generator.WritesFiles (.ofAnswer Workplace.answer) := by
  intro path content w outcome w' h
  have hanswer := Script.runs_call.1 (Script.runs_right.1 h)
  change answerProduction (.write path content) w = (outcome, w') at hanswer
  refine ⟨World × Output.Locks, .ofAnswer (Script.answerSum World.answer Output.Locks.answer),
    (w.world, w.locks), (Output.runAlone (Output.write path content) w.world w.locks).2,
    Script.runs_ofAnswer.2 ?_⟩
  have houtcome : (Output.runAlone (Output.write path content) w.world w.locks).1 = outcome :=
    congrArg Prod.fst hanswer
  exact Prod.ext houtcome rfl

/-! ### A file that no report lists

Of two artifacts of a table the first is written, and the second has no template.
-/

namespace Unlisted

open Generator MissedChange

def twoArtifacts : Generator :=
  { oneArtifact with artifacts := [⟨"m", "m.txt"⟩, ⟨"missing", "missing.txt"⟩] }

def outcome : Outcome RunReport × Workplace :=
  furnished.run twoArtifacts (snapshotOf (keyed "id"))

set_option maxRecDepth 100000 in
theorem outcome_eq : outcome.1.map (fun report =>
    (report.filesWritten, report.failures.map (·.tableName), pathsOf .written report.history)) =
      .ok ([], ["Item"], ["out/m.txt"]) := by
  decide +kernel

theorem runs_outcome : Procedure.Runs (.ofAnswer Workplace.answer)
    (twoArtifacts.run (snapshotOf (keyed "id"))) furnished outcome.1 outcome.2 :=
  Script.runs_ofAnswer.2 rfl

/-- The file is in the history of the report, as written, and not in its list. -/
theorem written_not_listed : ∃ report, Procedure.Runs (.ofAnswer Workplace.answer)
      (twoArtifacts.run (snapshotOf (keyed "id"))) furnished (.ok report) outcome.2 ∧
    report.filesWritten = [] ∧ pathsOf .written report.history = ["out/m.txt"] := by
  obtain ⟨report, hreport, hlists⟩ := exists_of_map_eq_ok outcome_eq
  rw [Prod.mk.injEq, Prod.mk.injEq] at hlists
  refine ⟨report, ?_, hlists.1, hlists.2.2⟩
  rw [← hreport]
  exact runs_outcome

theorem report_lists_outcome : WritesFiles (.ofAnswer Workplace.answer) ∧
    ∃ report, Procedure.Runs (.ofAnswer Workplace.answer)
        (twoArtifacts.run (snapshotOf (keyed "id"))) furnished (.ok report) outcome.2 ∧
      ∃ plans runs startedAt completedAt sync,
        List.Forall₂ (Follows (.ofAnswer Workplace.answer) twoArtifacts (snapshotOf (keyed "id")))
          plans runs ∧
        report = .of startedAt completedAt sync runs ∧ report.Lists runs := by
  obtain ⟨report, hreport, -⟩ := exists_of_map_eq_ok outcome_eq
  have hruns := runs_outcome
  rw [hreport] at hruns
  exact ⟨Workplace.writesFiles, report, hruns, report_lists Workplace.writesFiles hruns⟩

end Unlisted

end SchemaCodegen
