import Mathlib.Data.List.Forall2
import SchemaCodegen.Generation.Run
import SchemaCodegen.Proofs.Script.Runs

/-!
# What runs attempt

However the questions of a run are answered, its tables come out in one way: artifacts are attempted
in turn as far as the first failure (`Attempted`), each attempt goes to the history as it ended
(`Tells`), and a table is given up exactly for the failure that ended its attempts
(`Attempted.complete_or_broken`).
-/

namespace SchemaCodegen.Generator

/-- The record of an attempt says which artifact was attempted and what came of it. What was written
is what somebody answered who was asked to write to the artifact's path. -/
structure Tells {σ : Type} (step : generation.Step σ) (g : Generator) (t : TableContext)
    (artifact : ArtifactSpec) (a : Attempt) : Prop where
  schemaName : a.record.schemaName = t.schema
  tableName : a.record.tableName = t.name
  template : a.record.artifact = artifact.template
  outputPath : a.record.outputPath = (g.outputPath t artifact).text
  outcome : a.record.outcome = a.result.outcome
  error : a.record.error = a.result.failure?.map Failure.message
  written : ∀ {w : Output.Written}, a.result = .written w → ∃ content s s',
    Script.Runs step (produce (.write (g.outputPath t artifact) content)) s (Except.ok w) s'
  skipped : ∀ {path : Path}, a.result = .skipped path → path = g.outputPath t artifact

/-- The attempts on artifacts in turn, as far as the first failure. -/
inductive Attempted {σ : Type} (step : generation.Step σ) (g : Generator) (t : TableContext) :
    List ArtifactSpec → List Attempt → Prop where
  | done : Attempted step g t [] []
  | failed {artifact : ArtifactSpec} {a : Attempt} {failure : Failure}
      (tells : Tells step g t artifact a) (h : a.result = .failed failure)
      (artifacts : List ArtifactSpec) :
      Attempted step g t (artifact :: artifacts) [a]
  | next {artifact : ArtifactSpec} {a : Attempt} {artifacts : List ArtifactSpec}
      {attempts : List Attempt} (tells : Tells step g t artifact a)
      (h : a.result.failure? = none) (rest : Attempted step g t artifacts attempts) :
      Attempted step g t (artifact :: artifacts) (a :: attempts)

/-- What becomes of a planned table. -/
inductive Follows {σ : Type} (step : generation.Step σ) (g : Generator) (snapshot : Snapshot)
    (plan : TablePlan) : TableRun → Prop where
  | missing (h : tableOf? snapshot plan = none) (failure : Failure) :
      Follows step g snapshot plan ⟨plan, [], some failure⟩
  | found {table : Table} {attempts : List Attempt} (h : tableOf? snapshot plan = some table)
      (attempted :
        Attempted step g (.build g.rules snapshot table) (g.enabled plan.flags) attempts) :
      Follows step g snapshot plan ⟨plan, attempts, lastFailure attempts⟩

namespace Follows

variable {σ : Type} {step : generation.Step σ} {g : Generator} {snapshot : Snapshot}
  {plan : TablePlan} {r : TableRun}

theorem plan_eq (h : Follows step g snapshot plan r) : r.plan = plan := by
  cases h <;> rfl

/-- Only tables of the snapshot are generated. -/
theorem isSome_tableOf? (h : Follows step g snapshot plan r) (hgen : r.isGenerated) :
    (tableOf? snapshot plan).isSome := by
  cases h with
  | missing hnone failure => cases hgen
  | found htable _ =>
    rw [htable]
    rfl

end Follows

theorem exists_mem_of_forall₂ {α β : Type} {R : α → β → Prop} {as : List α} {bs : List β}
    (h : List.Forall₂ R as bs) {b : β} (hb : b ∈ bs) : ∃ a ∈ as, R a b := by
  induction h with
  | nil => cases hb
  | @cons a first as bs hfirst _ ih =>
    rcases List.mem_cons.1 hb with rfl | hb
    · exact ⟨a, List.mem_cons_self, hfirst⟩
    · obtain ⟨a', ha', hrel⟩ := ih hb
      exact ⟨a', List.mem_cons_of_mem _ ha', hrel⟩

section Runs

variable {σ : Type} {step : generation.Step σ} {s s' : σ} {g : Generator} {t : TableContext}
  {snapshot : Snapshot}

/-- What was written was answered to a request to write. -/
theorem of_renderAndWrite_ok {template : String} {path : Path} {w : Output.Written}
    (h : Script.Runs step (renderAndWrite template t path) s (.ok w) s') :
    ∃ content s₁, Script.Runs step (produce (.write path content)) s₁ (Except.ok w) s' := by
  obtain ⟨rendered, s₁, -, h⟩ := Script.runs_bind.1 h
  cases rendered with
  | error failure => cases (Script.runs_pure.1 h).1
  | ok content => exact ⟨content, s₁, h⟩

theorem eq_ok_of_resultOf {path : Path} {outcome : Outcome Output.Written} {w : Output.Written}
    (h : resultOf path outcome = .written w) : outcome = .ok w := by
  cases outcome with
  | ok written =>
    cases h
    rfl
  | error failure =>
    simp only [resultOf] at h
    split at h <;> cases h

theorem eq_path_of_resultOf {path skipped : Path} {outcome : Outcome Output.Written}
    (h : resultOf path outcome = .skipped skipped) : skipped = path := by
  cases outcome with
  | ok written => cases h
  | error failure =>
    simp only [resultOf] at h
    split at h
    · cases h
      rfl
    · cases h

-- How a path is put together does not matter here, and unfolding it takes long.
attribute [local irreducible] outputPath

theorem tells_of_attempt {artifact : ArtifactSpec} {a : Attempt}
    (h : Script.Runs step (g.attempt t artifact) s a s') : Tells step g t artifact a := by
  obtain ⟨outcome, s₁, hwrite, h⟩ := Script.runs_bind.1 h
  obtain ⟨id, s₂, -, h⟩ := Script.runs_bind.1 h
  obtain ⟨time, s₃, -, h⟩ := Script.runs_bind.1 h
  obtain ⟨rfl, -⟩ := Script.runs_pure.1 h
  refine ⟨rfl, rfl, rfl, rfl, rfl, rfl, fun {w} hresult => ?_, eq_path_of_resultOf⟩
  rw [eq_ok_of_resultOf hresult] at hwrite
  obtain ⟨content, s₀, hproduce⟩ := of_renderAndWrite_ok hwrite
  exact ⟨content, s₀, s₁, hproduce⟩

theorem attempted_of_attemptEach {artifacts : List ArtifactSpec} {attempts : List Attempt}
    (h : Script.Runs step (g.attemptEach t artifacts) s attempts s') :
    Attempted step g t artifacts attempts := by
  induction artifacts generalizing s attempts with
  | nil =>
    obtain ⟨rfl, -⟩ := Script.runs_pure.1 h
    exact .done
  | cons artifact artifacts ih =>
    obtain ⟨first, s₁, hfirst, h⟩ := Script.runs_bind.1 h
    split at h
    · next failure hresult =>
      obtain ⟨rfl, -⟩ := Script.runs_pure.1 h
      exact .failed (tells_of_attempt hfirst) hresult artifacts
    · next hresult =>
      obtain ⟨rest, s₂, hrest, h⟩ := Script.runs_bind.1 h
      obtain ⟨rfl, rfl⟩ := Script.runs_pure.1 h
      refine .next (tells_of_attempt hfirst) ?_ (ih hrest)
      cases hfailure : first.result with
      | failed failure => exact absurd hfailure (hresult failure)
      | written w => rfl
      | skipped path => rfl

theorem follows_of_generateTable {plan : TablePlan} {r : TableRun}
    (h : Script.Runs step (g.generateTable snapshot plan) s r s') :
    Follows step g snapshot plan r := by
  unfold generateTable at h
  split at h
  · next hnone =>
    obtain ⟨rfl, -⟩ := Script.runs_pure.1 h
    exact .missing hnone _
  · next table htable =>
    obtain ⟨attempts, s₁, hattempts, h⟩ := Script.runs_bind.1 h
    obtain ⟨rfl, -⟩ := Script.runs_pure.1 h
    exact .found htable (attempted_of_attemptEach hattempts)

theorem follows_of_generateTables {plans : List TablePlan} {runs : List TableRun}
    (h : Script.Runs step (g.generateTables snapshot plans) s runs s') :
    List.Forall₂ (Follows step g snapshot) plans runs := by
  induction plans generalizing s runs with
  | nil =>
    obtain ⟨rfl, -⟩ := Script.runs_pure.1 h
    exact .nil
  | cons plan plans ih =>
    obtain ⟨first, s₁, hfirst, h⟩ := Script.runs_bind.1 h
    obtain ⟨rest, s₂, hrest, h⟩ := Script.runs_bind.1 h
    obtain ⟨rfl, rfl⟩ := Script.runs_pure.1 h
    exact .cons (follows_of_generateTable hfirst) (ih hrest)

/-- The stages of a run that ends with a report. -/
theorem stages_of_run {report : RunReport}
    (h : Procedure.Runs step (g.run snapshot) s (.ok report) s') :
    ∃ startedAt s₀ sync plan s₁ runs s₂ s₃ s₄ completedAt,
      Procedure.Runs step (ofBookkeeping (.ofJob Job.clock)) s (.ok startedAt) s₀ ∧
      Procedure.Runs step (g.prepare snapshot) s₀ (.ok (sync, plan)) s₁ ∧
      Script.Runs step (g.generateTables snapshot plan.toGenerate) s₁ runs s₂ ∧
      Procedure.Runs step (ofBookkeeping
        (Bookkeeping.markAllGenerated (TableRun.generatedKeys runs))) s₂ (.ok ()) s₃ ∧
      Procedure.Runs step (ofBookkeeping
        (Bookkeeping.recordHistory (TableRun.history runs))) s₃ (.ok ()) s₄ ∧
      Procedure.Runs step (ofBookkeeping (.ofJob Job.clock)) s₄ (.ok completedAt) s' ∧
      report = .of startedAt completedAt sync runs := by
  obtain ⟨startedAt, s₀, hstart, h⟩ := Procedure.runs_bind_ok.1 h
  obtain ⟨⟨sync, plan⟩, s₁, hprepare, h⟩ := Procedure.runs_bind_ok.1 h
  obtain ⟨runs, s₂, hruns, h⟩ := Procedure.runs_bind_ok.1 h
  obtain ⟨⟨⟩, s₃, hmark, h⟩ := Procedure.runs_bind_ok.1 h
  obtain ⟨⟨⟩, s₄, hrecord, h⟩ := Procedure.runs_bind_ok.1 h
  obtain ⟨completedAt, s₅, hend, h⟩ := Procedure.runs_bind_ok.1 h
  obtain ⟨hreport, rfl⟩ := Procedure.runs_pure.1 h
  cases hreport
  exact ⟨startedAt, s₀, sync, plan, s₁, runs, s₂, s₃, s₄, completedAt, hstart, hprepare,
    Procedure.runs_ofScript_ok.1 hruns, hmark, hrecord, hend, rfl⟩

end Runs

/-! ## Who is asked -/

section Asks

variable {allowed : generation.Call → Prop} {g : Generator} {t : TableContext}
  {snapshot : Snapshot} (hmachine : ∀ call, allowed (.inl (.inl call)))
  (hrender : ∀ template context, allowed (.inr (.render template context)))

include hmachine hrender

theorem asks_attempt {artifact : ArtifactSpec}
    (hwrite : ∀ content, allowed (.inr (.write (g.outputPath t artifact) content))) :
    (g.attempt t artifact).Asks allowed := by
  have hask : ∀ call, (askMachine call).Asks allowed := fun call =>
    .left (.left (.call (hmachine call)))
  refine .bind ?_ fun outcome => .bind (hask _) fun id => .bind (hask _) fun time => .pure _
  refine .bind (.right (.call (hrender _ _))) fun rendered => ?_
  cases rendered with
  | error failure => exact .pure _
  | ok content => exact .right (.call (hwrite content))

theorem asks_attemptEach {artifacts : List ArtifactSpec} (hwrite : ∀ artifact ∈ artifacts,
    ∀ content, allowed (.inr (.write (g.outputPath t artifact) content))) :
    (g.attemptEach t artifacts).Asks allowed := by
  induction artifacts with
  | nil => exact .pure _
  | cons artifact artifacts ih =>
    refine .bind (asks_attempt hmachine hrender (hwrite artifact List.mem_cons_self)) fun first => ?_
    split
    · exact .pure _
    · exact .bind (ih fun other h => hwrite other (List.mem_cons_of_mem _ h)) fun rest => .pure _

/-- Generating tables asks the machine and the production, and no keeper. What is to be written is
the artifacts of the tables. -/
theorem asks_generateTables (hwrite : ∀ table ∈ snapshot.tables, ∀ artifact ∈ g.artifacts,
    ∀ content, allowed (.inr (.write (g.outputPath (.build g.rules snapshot table) artifact)
      content))) (plans : List TablePlan) :
    (g.generateTables snapshot plans).Asks allowed := by
  induction plans with
  | nil => exact .pure _
  | cons plan plans ih =>
    refine .bind ?_ fun first => .bind ih fun rest => .pure _
    unfold generateTable
    split
    · exact .pure _
    · next table htable =>
      have hmem : table ∈ snapshot.tables := List.mem_of_find?_eq_some htable
      refine .bind (asks_attemptEach hmachine hrender ?_) fun attempts => .pure _
      exact fun artifact h => hwrite table hmem artifact (List.mem_of_mem_filter h)

end Asks

/-! ## How attempts end -/

/-- The record of an artifact that was written or found protected. -/
structure Succeeded (g : Generator) (t : TableContext) (artifact : ArtifactSpec)
    (r : HistoryRecord) : Prop where
  template : r.artifact = artifact.template
  outputPath : r.outputPath = (g.outputPath t artifact).text
  outcome : r.outcome = .written ∨ r.outcome = .skippedProtected
  error : r.error = none

/-- The records of artifacts that were attempted as far as one that failed. -/
def Broken (g : Generator) (t : TableContext) (artifacts : List ArtifactSpec)
    (records : List HistoryRecord) (error : String) : Prop :=
  ∃ before artifact after done last, artifacts = before ++ artifact :: after ∧
    records = done ++ [last] ∧ List.Forall₂ (Succeeded g t) before done ∧
    last.artifact = artifact.template ∧ last.outputPath = (g.outputPath t artifact).text ∧
    last.outcome = .failed ∧ last.error = some error

theorem lastFailure_cons {a : Attempt} (h : a.result.failure? = none) (attempts : List Attempt) :
    lastFailure (a :: attempts) = lastFailure attempts := by
  cases attempts with
  | nil => simp [lastFailure, h]
  | cons b attempts => simp [lastFailure, List.getLast?_cons_cons]

section Attempted

variable {σ : Type} {step : generation.Step σ} {g : Generator} {t : TableContext}
  {artifacts : List ArtifactSpec} {attempts : List Attempt}

theorem Tells.succeeded {artifact : ArtifactSpec} {a : Attempt} (h : Tells step g t artifact a)
    (hresult : a.result.failure? = none) : Succeeded g t artifact a.record := by
  refine ⟨h.template, h.outputPath, ?_, by rw [h.error, hresult]; rfl⟩
  rw [h.outcome]
  cases hcase : a.result with
  | written w => exact .inl rfl
  | skipped path => exact .inr rfl
  | failed failure =>
    rw [hcase] at hresult
    cases hresult

/-- All artifacts succeeded, or a first one failed and its failure is the last. -/
theorem Attempted.complete_or_broken (h : Attempted step g t artifacts attempts) :
    (lastFailure attempts = none ∧
      List.Forall₂ (Succeeded g t) artifacts (attempts.map Attempt.record)) ∨
    ∃ failure, lastFailure attempts = some failure ∧
      Broken g t artifacts (attempts.map Attempt.record) failure.message := by
  induction h with
  | done => exact .inl ⟨rfl, .nil⟩
  | @failed artifact a failure tells hresult artifacts =>
    refine .inr ⟨failure, by simp [lastFailure, hresult, ArtifactResult.failure?], ?_⟩
    refine ⟨[], artifact, artifacts, [], a.record, rfl, rfl, .nil, tells.template,
      tells.outputPath, ?_, ?_⟩
    · rw [tells.outcome, hresult]
      rfl
    · rw [tells.error, hresult]
      rfl
  | @next artifact a artifacts attempts tells hresult _ ih =>
    have hfirst := tells.succeeded hresult
    rw [lastFailure_cons hresult]
    rcases ih with ⟨hnone, hall⟩ | ⟨failure, hsome, before, last, after, done, final, rfl, hrecords,
      hdone, hbroken⟩
    · exact .inl ⟨hnone, .cons hfirst hall⟩
    · refine .inr ⟨failure, hsome, artifact :: before, last, after, a.record :: done, final, rfl,
        ?_, .cons hfirst hdone, hbroken⟩
      rw [List.map_cons, hrecords]
      rfl

theorem Attempted.exists_tells (h : Attempted step g t artifacts attempts) {a : Attempt}
    (ha : a ∈ attempts) : ∃ artifact ∈ artifacts, Tells step g t artifact a := by
  induction h with
  | done => cases ha
  | failed tells _ _ =>
    rw [List.mem_singleton.1 ha]
    exact ⟨_, List.mem_cons_self, tells⟩
  | next tells _ _ ih =>
    rcases List.mem_cons.1 ha with rfl | ha
    · exact ⟨_, List.mem_cons_self, tells⟩
    · obtain ⟨artifact, hmem, htells⟩ := ih ha
      exact ⟨artifact, List.mem_cons_of_mem _ hmem, htells⟩

end Attempted

end SchemaCodegen.Generator
