import SchemaCodegen.Proofs.Generation.Listing
import SchemaCodegen.Proofs.Generation.Works
import SchemaCodegen.Proofs.Metadata.Stamps

/-!
# The accounts of a run

The results of a run are spread over its report, the history and the stamps of tables. At a site
whose keeper works every run ends with a report, whatever fails to be rendered or written, and all
three tell the same of each planned table (`Site.Works.run_accounts`): it is generated and stamped,
with one record for each artifact that its flags allow, or it is given up with the records of the
artifacts up to the one that failed.
-/

namespace SchemaCodegen

/-! ## The report of settled tables -/

def HistoryRecord.names (r : HistoryRecord) : String × String :=
  (r.schemaName, r.tableName)

namespace RunReport

/-- The records of a planned table. -/
def recordsOf (report : RunReport) (p : TablePlan) : List HistoryRecord :=
  report.history.filter (·.names = p.names)

/-- The report splits the planned tables, which come in the order of their keys, into generated
ones and failures, and its history has the records that belong to each. -/
structure Accounts (report : RunReport) (g : Generator) (snapshot : Snapshot)
    (plans : List TablePlan) : Prop where
  ordered : (plans.map TablePlan.key).Pairwise (· < ·)
  distinct : (plans.map TablePlan.tableName).Nodup
  planned : report.tablesPlanned = plans.length
  total : report.tablesPlanned = report.tablesGenerated.length + report.failures.length
  generated_sublist : report.tablesGenerated.Sublist (plans.map TablePlan.tableName)
  failed_sublist : (report.failures.map TableFailure.tableName).Sublist
    (plans.map TablePlan.tableName)
  split : (report.tablesGenerated ++ report.failures.map TableFailure.tableName).Perm
    (plans.map TablePlan.tableName)
  history : report.history = plans.flatMap report.recordsOf
  generated : ∀ p ∈ plans, p.tableName ∈ report.tablesGenerated →
    ∃ t, Generator.tableOf? snapshot p = some t ∧
      List.Forall₂ (Generator.Succeeded g (.build g.rules snapshot t)) (g.enabled p.flags)
        (report.recordsOf p)
  failed : ∀ p ∈ plans, ∀ failure ∈ report.failures, failure.tableName = p.tableName →
    ∃ t, Generator.tableOf? snapshot p = some t ∧
      Generator.Broken g (.build g.rules snapshot t) (g.enabled p.flags) (report.recordsOf p)
        failure.error

/-- Exactly the planned tables that are reported as generated got a new stamp. -/
structure Stamps (report : RunReport) (plans : List TablePlan) (time : Instant)
    (before after : Metadata) : Prop where
  generated : ∀ p ∈ plans, p.tableName ∈ report.tablesGenerated →
    after.stampOf p.key = some time
  others : ∀ key, (∀ p ∈ plans, p.tableName ∈ report.tablesGenerated → p.key ≠ key) →
    after.stampOf key = before.stampOf key

end RunReport

namespace TableRun

/-- The run of a table of the snapshot: all artifacts have records and are well, or those up to the
one that failed. -/
def Settled (g : Generator) (snapshot : Snapshot) (r : TableRun) : Prop :=
  ∃ t, Generator.tableOf? snapshot r.plan = some t ∧
    (∀ a ∈ r.attempts, a.record.names = r.plan.names) ∧
    ((r.failure = none ∧ List.Forall₂ (Generator.Succeeded g (.build g.rules snapshot t))
        (g.enabled r.plan.flags) (r.attempts.map Attempt.record)) ∨
      ∃ failure, r.failure = some failure ∧
        Generator.Broken g (.build g.rules snapshot t) (g.enabled r.plan.flags)
          (r.attempts.map Attempt.record) failure.message)

theorem settled_of_follows {σ : Type} {step : generation.Step σ} {g : Generator}
    {snapshot : Snapshot} {plan : TablePlan} {r : TableRun}
    (h : Generator.Follows step g snapshot plan r)
    (htable : (Generator.tableOf? snapshot plan).isSome) :
    r.plan = plan ∧ r.Settled g snapshot := by
  cases h with
  | missing hnone failure =>
    rw [hnone] at htable
    cases htable
  | @found t attempts htable attempted =>
    refine ⟨rfl, t, htable, fun a ha => ?_, attempted.complete_or_broken⟩
    obtain ⟨artifact, -, htells⟩ := attempted.exists_tells ha
    rw [← (Generator.of_tableOf?_eq_some htable).2]
    exact Prod.ext htells.schemaName htells.tableName

theorem map_plan_of_settled {σ : Type} {step : generation.Step σ} {g : Generator}
    {snapshot : Snapshot} {plans : List TablePlan} {runs : List TableRun}
    (h : List.Forall₂ (Generator.Follows step g snapshot) plans runs)
    (htables : ∀ p ∈ plans, (Generator.tableOf? snapshot p).isSome) :
    runs.map TableRun.plan = plans ∧ ∀ r ∈ runs, r.Settled g snapshot := by
  induction h with
  | nil => exact ⟨rfl, fun r hr => nomatch hr⟩
  | @cons plan r plans runs hfirst _ ih =>
    rw [List.forall_mem_cons] at htables
    obtain ⟨hplan, hsettled⟩ := settled_of_follows hfirst htables.1
    obtain ⟨hplans, hrest⟩ := ih htables.2
    exact ⟨by rw [List.map_cons, hplan, hplans], List.forall_mem_cons.2 ⟨hsettled, hrest⟩⟩

theorem map_tableName_report? (runs : List TableRun) :
    (runs.filterMap report?).map TableFailure.tableName =
      (runs.filter (!·.isGenerated)).map (·.plan.tableName) := by
  induction runs with
  | nil => rfl
  | cons r runs ih =>
    rw [List.filterMap_cons, List.filter_cons]
    cases hfailure : r.failure <;> simp [report?, isGenerated, hfailure, ih]

end TableRun

/-- Of lists that are marked by different owners, one is found again by its owner's mark. -/
theorem filter_flatMap_of_mem {α β κ : Type} [DecidableEq κ] {f : α → List β} {mark : β → κ}
    {owner : α → κ} {l : List α} (hmarks : ∀ a ∈ l, ∀ b ∈ f a, mark b = owner a)
    (hl : (l.map owner).Nodup) {a : α} (ha : a ∈ l) :
    (l.flatMap f).filter (mark · = owner a) = f a := by
  induction l with
  | nil => cases ha
  | cons first l ih =>
    rw [List.forall_mem_cons] at hmarks
    rw [List.map_cons, List.nodup_cons] at hl
    rw [List.flatMap_cons, List.filter_append]
    rcases List.mem_cons.1 ha with rfl | ha
    · have hown : (f a).filter (mark · = owner a) = f a :=
        List.filter_eq_self.2 fun b hb => decide_eq_true (hmarks.1 b hb)
      have hothers : (l.flatMap f).filter (mark · = owner a) = [] := by
        refine List.filter_eq_nil_iff.2 fun b hb hmark => hl.1 ?_
        obtain ⟨other, hother, hb⟩ := List.mem_flatMap.1 hb
        rw [← of_decide_eq_true hmark, hmarks.2 other hother b hb]
        exact List.mem_map_of_mem hother
      rw [hown, hothers, List.append_nil]
    · have hothers : (f first).filter (mark · = owner a) = [] := by
        refine List.filter_eq_nil_iff.2 fun b hb hmark => hl.1 ?_
        rw [← hmarks.1 b hb, of_decide_eq_true hmark]
        exact List.mem_map_of_mem ha
      rw [hothers, ih hmarks.2 hl.2 ha, List.nil_append]

section Accounts

variable {g : Generator} {snapshot : Snapshot} {runs : List TableRun} {sync : SyncResult}
  {startedAt completedAt : Instant} (hsettled : ∀ r ∈ runs, r.Settled g snapshot)
  (hdistinct : (runs.map (·.plan.tableName)).Nodup)

include hdistinct

theorem TableRun.eq_of_tableName_eq {r r' : TableRun} (hr : r ∈ runs) (hr' : r' ∈ runs)
    (h : r.plan.tableName = r'.plan.tableName) : r = r' :=
  List.inj_on_of_nodup_map hdistinct hr hr' h

theorem TableRun.tableName_mem_tablesGenerated_iff {r : TableRun} (hr : r ∈ runs) :
    r.plan.tableName ∈ (RunReport.of startedAt completedAt sync runs).tablesGenerated ↔
      r.isGenerated := by
  constructor
  · intro h
    obtain ⟨r', hr', hname⟩ := List.mem_map.1 h
    obtain ⟨hmem, hgen⟩ := List.mem_filter.1 hr'
    rwa [← eq_of_tableName_eq hdistinct hmem hr hname]
  · intro h
    exact List.mem_map_of_mem (f := fun r : TableRun => r.plan.tableName)
      (List.mem_filter.2 ⟨hr, h⟩)

include hsettled

theorem RunReport.recordsOf_of {r : TableRun} (hr : r ∈ runs) :
    (RunReport.of startedAt completedAt sync runs).recordsOf r.plan =
      r.attempts.map Attempt.record := by
  have hmarks : ∀ r ∈ runs, ∀ record ∈ r.attempts.map Attempt.record,
      record.names = r.plan.names := by
    intro r hr record hrecord
    obtain ⟨a, ha, rfl⟩ := List.mem_map.1 hrecord
    obtain ⟨t, -, hnames, -⟩ := hsettled r hr
    exact hnames a ha
  have hnodup : (runs.map (·.plan.names)).Nodup := by
    refine List.Nodup.of_map Prod.snd ?_
    rwa [List.map_map]
  exact filter_flatMap_of_mem hmarks hnodup hr

/-- Settled tables that come in the order of their keys, under different names, give a report that
accounts for them. -/
theorem RunReport.accounts_of (hordered : (runs.map (·.plan.key)).Pairwise (· < ·)) :
    (RunReport.of startedAt completedAt sync runs).Accounts g snapshot
      (runs.map TableRun.plan) := by
  have hfailures := TableRun.map_tableName_report? runs
  have hsplit := (List.filter_append_perm TableRun.isGenerated runs).map (·.plan.tableName)
  rw [List.map_append, ← hfailures] at hsplit
  refine
    { ordered := by rwa [List.map_map]
      distinct := by rwa [List.map_map]
      planned := (List.length_map _).symm
      total := ?total
      generated_sublist := ?generated_sublist
      failed_sublist := ?failed_sublist
      split := by rwa [List.map_map]
      history := ?history
      generated := ?generated
      failed := ?failed }
  case total =>
    have hlength := hsplit.length_eq
    rw [List.length_append, List.length_map TableFailure.tableName] at hlength
    exact (List.length_map _).symm.trans hlength.symm
  case generated_sublist =>
    rw [List.map_map]
    exact List.filter_sublist.map _
  case failed_sublist =>
    rw [List.map_map]
    exact hfailures ▸ List.filter_sublist.map _
  case history =>
    rw [List.flatMap_map]
    exact List.flatMap_congr fun r hr => (recordsOf_of hsettled hdistinct hr).symm
  case generated =>
    intro p hp hgen
    obtain ⟨r, hr, rfl⟩ := List.mem_map.1 hp
    rw [TableRun.tableName_mem_tablesGenerated_iff hdistinct hr, TableRun.isGenerated,
      Option.isNone_iff_eq_none] at hgen
    rw [recordsOf_of hsettled hdistinct hr]
    obtain ⟨t, ht, -, ⟨-, hall⟩ | ⟨failure, hfailure, -⟩⟩ := hsettled r hr
    · exact ⟨t, ht, hall⟩
    · rw [hgen] at hfailure
      cases hfailure
  case failed =>
    intro p hp f hf hname
    obtain ⟨r, hr, rfl⟩ := List.mem_map.1 hp
    obtain ⟨r', hr', hreport⟩ := List.mem_filterMap.1 hf
    obtain ⟨failure, hfailure, rfl⟩ := Option.map_eq_some_iff.1 hreport
    obtain rfl := TableRun.eq_of_tableName_eq hdistinct hr' hr hname
    rw [recordsOf_of hsettled hdistinct hr]
    obtain ⟨t, ht, -, ⟨hnone, -⟩ | ⟨failure', hfailure', hbroken⟩⟩ := hsettled r' hr
    · rw [hnone] at hfailure
      cases hfailure
    · rw [hfailure] at hfailure'
      cases hfailure'
      exact ⟨t, ht, hbroken⟩

omit hsettled in
theorem RunReport.stamps_of {before synced after : Metadata} {time : Instant}
    (hsync : ∀ key, synced.stampOf key = before.stampOf key)
    (hmark : synced.markAllGenerated (TableRun.generatedKeys runs) time = .ok after) :
    (RunReport.of startedAt completedAt sync runs).Stamps (runs.map TableRun.plan) time before
      after := by
  refine ⟨fun p hp hgen => ?_, fun key hkey => ?_⟩
  · obtain ⟨r, hr, rfl⟩ := List.mem_map.1 hp
    rw [TableRun.tableName_mem_tablesGenerated_iff hdistinct hr] at hgen
    rw [Metadata.stampOf_of_markAllGenerated hmark, if_pos]
    exact List.mem_map_of_mem (f := TableRun.key) (List.mem_filter.2 ⟨hr, hgen⟩)
  · rw [Metadata.stampOf_of_markAllGenerated hmark, if_neg, hsync]
    intro hmem
    obtain ⟨r, hr, rfl⟩ := List.mem_map.1 hmem
    obtain ⟨hr, hgen⟩ := List.mem_filter.1 hr
    refine hkey r.plan (List.mem_map_of_mem hr) ?_ rfl
    rwa [TableRun.tableName_mem_tablesGenerated_iff hdistinct hr]

end Accounts

/-! ## Runs where the keeper works -/

namespace Site.Works

variable {σ : Type} {site : Site σ} (works : site.Works) {s : σ} {g : Generator}
  {snapshot : Snapshot} {past : List Snapshot}

include works

/-- A run ends with a report that accounts for what it planned, whatever is answered to rendering
and writing. Stamps and the history tell the same as the report. -/
theorem run_accounts (hs : works.ready s) (hpast : Metadata.Syncs past (site.metadata s))
    (usable : snapshot.defect? = none)
    (hkeys : KeysTell ((past ++ [snapshot]).flatMap Snapshot.tables)) :
    (∃ outcome s', Procedure.Runs site.step (g.run snapshot) s outcome s') ∧
      ∀ {outcome s'}, Procedure.Runs site.step (g.run snapshot) s outcome s' →
        ∃ report fresh syncedAt plannedAt time, outcome = .ok report ∧
          let synced := (site.metadata s).sync fresh syncedAt snapshot
          let plans :=
            (GenerationPlan.build synced.1 synced.2 g.includeUnchanged plannedAt).toGenerate
          report.Accounts g snapshot plans ∧
            report.Stamps plans time (site.metadata s) (site.metadata s') ∧
            works.history s' = works.history s ++ report.history := by
  have hnamed := hpast.named
  refine ⟨works.exists_run hs, fun {outcome s'} h => ?_⟩
  cases outcome with
  | error failure => exact absurd h (works.succeeds_run hnamed.wellFiled failure s')
  | ok report =>
    have hhistory := works.history_of_run h
    obtain ⟨fresh, now, plannedAt, runs, startedAt, completedAt, time, hfollows, hmark, rfl⟩ :=
      Generator.of_run_ok h
    have hordered := GenerationPlan.pairwise_keys (hnamed.wellFiled.sync fresh now snapshot)
      ((site.metadata s).sync fresh now snapshot).2 g.includeUnchanged plannedAt
    have hdistinct := GenerationPlan.nodup_tableNames hnamed hkeys usable fresh now
      ((site.metadata s).sync fresh now snapshot).2 g.includeUnchanged plannedAt
    obtain ⟨hplans, hsettled⟩ := TableRun.map_plan_of_settled hfollows fun p hp =>
      have ⟨t, ht, hnames⟩ := GenerationPlan.exists_table_of_mem hnamed hkeys
        (GenerationPlan.mem_tables_of_mem_toGenerate hp)
      Generator.isSome_tableOf? ht hnames
    rw [← hplans, List.map_map] at hordered hdistinct
    refine ⟨_, fresh, now, plannedAt, time, rfl, ?_⟩
    dsimp only
    rw [← hplans]
    exact ⟨RunReport.accounts_of hsettled hdistinct hordered,
      RunReport.stamps_of hdistinct (Metadata.stampOf_sync fresh now snapshot _) hmark, hhistory⟩

end Site.Works

namespace Unlisted

open MissedChange

/-- The books are kept too where the second of two artifacts fails. -/
theorem run_accounts_outcome :
    Workplace.works.ready furnished ∧
      Metadata.Syncs [] (Workplace.inMemory.metadata furnished) ∧
      (snapshotOf (keyed "id")).defect? = none ∧
      KeysTell (([] ++ [snapshotOf (keyed "id")]).flatMap Snapshot.tables) ∧
      ∃ report fresh syncedAt plannedAt time, outcome.1 = .ok report ∧
        let synced :=
          (Workplace.inMemory.metadata furnished).sync fresh syncedAt (snapshotOf (keyed "id"))
        let plans :=
          (GenerationPlan.build synced.1 synced.2 twoArtifacts.includeUnchanged plannedAt).toGenerate
        report.Accounts twoArtifacts (snapshotOf (keyed "id")) plans ∧
          report.Stamps plans time (Workplace.inMemory.metadata furnished)
            (Workplace.inMemory.metadata outcome.2) ∧
          Workplace.works.history outcome.2 =
            Workplace.works.history furnished ++ report.history := by
  have hready : Workplace.works.ready furnished := rfl
  have hpast : Metadata.Syncs [] (Workplace.inMemory.metadata furnished) := .start
  have hkeys : KeysTell (([] ++ [snapshotOf (keyed "id")]).flatMap Snapshot.tables) := by decide
  refine ⟨hready, hpast, rfl, hkeys, ?_⟩
  exact (Workplace.works.run_accounts hready hpast rfl hkeys).2 (Workplace.runs_inMemory _ rfl).1

end Unlisted

end SchemaCodegen
