import SchemaCodegen.Proofs.Generation.Planning
import SchemaCodegen.Proofs.Generation.Site
import SchemaCodegen.Proofs.Snapshot.Names

/-!
# Which unchanged tables are up to date

A plan leaves a table out as unchanged when the sync found the fingerprint that it had stored for
it, and the table was generated at some time. The stored fingerprint is that of the table as it was
last seen, which need not be the one that was last generated: a run that fails to generate a table
that changed has already stored the change. The main statement
(`Site.History.upToDate_iff_not_missed`) says that this is the only way in which a table is left
out that is not up to date, over every history of runs and changes of flags at any site.
-/

namespace SchemaCodegen

/-- A run that came to its end: what it was given, and what it reported. -/
structure Episode where
  snapshot : Snapshot
  report : RunReport

namespace Episode

/-- The table of a schema and name, if the run generated it. -/
def generated? (run : Episode) (schema name : String) : Option Table :=
  if run.report.tablesGenerated.contains name then
    run.snapshot.tables.find? fun t => t.name == name && t.schemaName == schema
  else none

/-- The table from which the most recent run that generated it did so, of runs from the newest to
the oldest. -/
def lastGenerated? (runs : List Episode) (schema name : String) : Option Table :=
  runs.findSome? (·.generated? schema name)

/-- All tables that runs have come to, from the last to the first. -/
def seenTables (runs : List Episode) : List Table :=
  runs.flatMap (·.snapshot.tables.reverse)

/-- What a run finds stored for a table of its snapshot: the table that was last seen under its
key, by an earlier run or earlier in this one. -/
def foundStored? (runs : List Episode) (snapshot : Snapshot) (e : TablePlan) : Option Table :=
  Metadata.lastSeen?
    ((snapshot.tables.takeWhile (·.name ≠ e.tableName)).reverse ++ seenTables runs)
    (tableKey e.schemaName e.tableName)

/-- The table is as it was when it was last generated. -/
def UpToDate (runs : List Episode) (snapshot : Snapshot) (e : TablePlan) : Prop :=
  ∃ generated current, lastGenerated? runs e.schemaName e.tableName = some generated ∧
    Generator.tableOf? snapshot e = some current ∧
    Fingerprint.ofTable generated = Fingerprint.ofTable current

/-- A change was missed: the table was seen otherwise than it was last generated, and stored. -/
def Missed (runs : List Episode) (snapshot : Snapshot) (e : TablePlan) : Prop :=
  ∃ generated stored, lastGenerated? runs e.schemaName e.tableName = some generated ∧
    foundStored? runs snapshot e = some stored ∧
    Fingerprint.ofTable generated ≠ Fingerprint.ofTable stored

end Episode

namespace Site

variable {σ : Type}

/-- What may have happened at a site that started without metadata: runs over usable snapshots,
the newest first, by any generators, and in between changes of flags and whatever else leaves the
metadata alone. -/
inductive History (site : Site σ) : List Episode → σ → Prop where
  | start {s : σ} (h : site.metadata s = .empty) : History site [] s
  | interlude {runs : List Episode} {s s' : σ} (before : History site runs s)
      (changes : List (String × GenerationFlags))
      (h : site.metadata s' = changes.foldl (fun m c => m.setFlags c.1 c.2) (site.metadata s)) :
      History site runs s'
  | run {runs : List Episode} {s s' : σ} (before : History site runs s) (g : Generator)
      (snapshot : Snapshot) (usable : snapshot.defect? = none) (report : RunReport)
      (h : Procedure.Runs site.step (g.run snapshot) s (.ok report) s') :
      History site (⟨snapshot, report⟩ :: runs) s'

end Site

/-! ## What runs leave behind -/

namespace Episode

/-- Whatever is stamped was generated by one of the runs. -/
def Stamped (runs : List Episode) (m : Metadata) : Prop :=
  ∀ (key : String) (r : TableRecord), m.tables[key]? = some r → r.lastGenerated.isSome →
    (lastGenerated? runs r.schemaName r.tableName).isSome

/-- What is left in the metadata by runs so far: every record is that of the table last seen under
its key, and what is stamped was generated. -/
structure Kept (runs : List Episode) (m : Metadata) : Prop where
  sighted : Metadata.Sighted (seenTables runs) m.tables
  stamped : Stamped runs m

theorem isSome_lastGenerated?_cons {run : Episode} {runs : List Episode} {schema name : String}
    (h : (run.generated? schema name).isSome ∨ (lastGenerated? runs schema name).isSome) :
    (lastGenerated? (run :: runs) schema name).isSome := by
  rw [lastGenerated?, List.findSome?_isSome_iff] at *
  rcases h with h | ⟨run', hmem, h⟩
  · exact ⟨run, List.mem_cons_self, h⟩
  · exact ⟨run', List.mem_cons_of_mem _ hmem, h⟩

theorem Kept.empty : Kept [] .empty :=
  ⟨.empty, fun key r hr _ => by simp [Metadata.empty] at hr⟩

theorem Kept.setFlags {runs : List Episode} {m : Metadata} (h : Kept runs m)
    (changes : List (String × GenerationFlags)) :
    Kept runs (changes.foldl (fun m c => m.setFlags c.1 c.2) m) := by
  refine ⟨h.sighted.of_map fun key r' hr' => ?_, fun key r' hr' hstamp => ?_⟩
  · obtain ⟨r, hr, hagrees, -⟩ := Metadata.of_getElem?_setFlags hr'
    exact ⟨r, hr, hagrees⟩
  · obtain ⟨r, hr, hagrees, hkept⟩ := Metadata.of_getElem?_setFlags hr'
    rw [hagrees.tableName, hagrees.schemaName]
    exact h.stamped key r hr (by rwa [← hkept])

/-- A sync stamps nothing. -/
theorem Stamped.sync (fresh : RecordKey → Uuid) (now : Instant) (snapshot : Snapshot)
    {runs : List Episode} {m : Metadata} (h : Stamped runs m) :
    Stamped runs (m.sync fresh now snapshot).1 := by
  intro key r' hr' hstamp
  obtain ⟨r, hr, hcont⟩ := Metadata.of_stamped_sync hr' hstamp
  rw [hcont.tableName, hcont.schemaName]
  exact h key r hr (by rwa [← hcont.lastGenerated])

/-- The keys that a run stamps are those of planned tables of its snapshot that it reports as
generated. -/
theorem exists_plan_of_mem_generatedKeys {σ : Type} {step : generation.Step σ} {g : Generator}
    {snapshot : Snapshot} {plans : List TablePlan} {tables : List TableRun}
    (h : List.Forall₂ (Generator.Follows step g snapshot) plans tables)
    {key : String} (hkey : key ∈ TableRun.generatedKeys tables) :
    ∃ plan ∈ plans, tableKey plan.schemaName plan.tableName = key ∧
      (Generator.tableOf? snapshot plan).isSome ∧
      plan.tableName ∈ (tables.filter TableRun.isGenerated).map (·.plan.tableName) := by
  obtain ⟨r, hr, rfl⟩ := List.mem_map.1 hkey
  obtain ⟨hmem, hgen⟩ := List.mem_filter.1 hr
  obtain ⟨plan, hplan, hfollows⟩ := Generator.exists_mem_of_forall₂ h hmem
  obtain rfl := hfollows.plan_eq
  exact ⟨r.plan, hplan, rfl, hfollows.isSome_tableOf? hgen, List.mem_map_of_mem hr⟩

/-- A run that ends with a report has stored what it saw and stamped what it generated. -/
theorem Kept.run {σ : Type} {site : Site σ} {s s' : σ} {g : Generator} {snapshot : Snapshot}
    {runs : List Episode} {report : RunReport} (hkept : Kept runs (site.metadata s))
    (h : Procedure.Runs site.step (g.run snapshot) s (.ok report) s') :
    Kept (⟨snapshot, report⟩ :: runs) (site.metadata s') := by
  obtain ⟨fresh, now, now', tables, startedAt, completedAt, time, hplans, hmark, hreport⟩ :=
    Generator.of_run_ok h
  have hsighted : Metadata.Sighted (seenTables (⟨snapshot, report⟩ :: runs)) _ :=
    hkept.sighted.sync fresh now snapshot
  have hstamped := hkept.stamped.sync fresh now snapshot
  refine ⟨hsighted.of_map fun key r' hr' => ?_, fun key r' hr' hstamp => ?_⟩
  · obtain ⟨r, hr, hagrees, -⟩ := Metadata.of_markAllGenerated hmark hr'
    exact ⟨r, hr, hagrees⟩
  · obtain ⟨r, hr, hagrees, hold⟩ := Metadata.of_markAllGenerated hmark hr'
    rw [hagrees.tableName, hagrees.schemaName]
    apply isSome_lastGenerated?_cons
    by_cases hkey : key ∈ TableRun.generatedKeys tables
    · left
      obtain ⟨e, he, hkeyeq, htable, hreported⟩ := exists_plan_of_mem_generatedKeys hplans hkey
      obtain ⟨r₁, hr₁, rfl⟩ := List.mem_map.1 (List.mem_filter.1 he).1
      obtain ⟨key₁, hkey₁⟩ := (Metadata.mem_activeTables.1 hr₁).1
      -- the planned record is the stamped one, as each stands under its own key
      have hsame : key₁ = key := (hsighted.key_eq hkey₁).trans hkeyeq
      rw [hsame, hr] at hkey₁
      cases hkey₁
      rw [generated?, if_pos]
      · exact htable
      · rw [hreport, List.contains_iff_mem]
        exact hreported
    · right
      exact hstamped key r hr (by rwa [← hold hkey])

end Episode

/-! ## What plans leave out -/

theorem GenerationPlan.reasonFor_eq_noChanges_iff {r : TableRecord}
    {isNew hasSchemaChanged includeUnchanged : Bool} :
    reasonFor r isNew hasSchemaChanged includeUnchanged = .noChanges ↔
      r.flags.any = true ∧ isNew = false ∧ hasSchemaChanged = false ∧
        r.lastGenerated.isSome ∧ includeUnchanged = false := by
  rw [reasonFor]
  cases r.flags.any <;> cases isNew <;> cases hasSchemaChanged <;> cases includeUnchanged <;>
    cases r.lastGenerated <;> simp

/-- An entry of a plan is that of an active record, and one without changes is that of a stamped
record that the sync did not report. -/
theorem GenerationPlan.of_noChanges {m : Metadata} {sync : SyncResult} {includeUnchanged : Bool}
    {now : Instant} {e : TablePlan} (he : e ∈ (build m sync includeUnchanged now).tables)
    (hreason : e.reason = .noChanges) :
    ∃ (key : String) (r : TableRecord), m.tables[key]? = some r ∧ r.lastGenerated.isSome ∧
      e.tableName = r.tableName ∧ e.schemaName = r.schemaName ∧
      ¬ (e.tableName ∈ sync.newTables ∨ e.tableName ∈ sync.modifiedTables) := by
  obtain ⟨r, hr, rfl⟩ := List.mem_map.1 he
  obtain ⟨⟨key, hkey⟩, -⟩ := Metadata.mem_activeTables.1 hr
  obtain ⟨-, -, hsame, hstamp, -⟩ := reasonFor_eq_noChanges_iff.1 hreason
  refine ⟨key, r, hkey, hstamp, rfl, rfl, ?_⟩
  simpa [entry] using hsame

namespace Site.History

open Episode Generator

variable {σ : Type} {site : Site σ} {runs : List Episode} {s s' : σ}

theorem kept (history : History site runs s) : Kept runs (site.metadata s) := by
  induction history with
  | start h =>
    rw [h]
    exact .empty
  | interlude _ changes h ih =>
    rw [h]
    exact ih.setFlags changes
  | run _ g snapshot _ report h ih => exact ih.run h

/-- A table that a sync does not report had its fingerprint stored already. -/
theorem stored_of_not_reported (fresh : RecordKey → Uuid) (now : Instant) {m : Metadata}
    (hkept : Kept runs m) {snapshot : Snapshot} (usable : snapshot.defect? = none) {e : TablePlan}
    {t : Table} (ht : tableOf? snapshot e = some t)
    (h : ¬ (e.tableName ∈ (m.sync fresh now snapshot).2.newTables ∨
      e.tableName ∈ (m.sync fresh now snapshot).2.modifiedTables)) :
    ∃ stored, foundStored? runs snapshot e = some stored ∧
      Fingerprint.ofTable stored = Fingerprint.ofTable t := by
  have hnames := List.find?_some ht
  rw [Bool.and_eq_true, beq_iff_eq, beq_iff_eq] at hnames
  obtain ⟨before, after, hsplit⟩ := List.append_of_mem (List.mem_of_find?_eq_some ht)
  rw [Metadata.sync_newTables, Metadata.sync_modifiedTables, hsplit, ← hnames.1] at h
  obtain ⟨r, hr, hcurrent⟩ := Metadata.current_of_not_reported h
  have hsighted := hkept.sighted.foldl_step fresh now (p := ⟨m, [], [], 0⟩) before
  obtain ⟨stored, hstored, hsame⟩ := hsighted.current_eq hr
  refine ⟨stored, ?_, hsame.symm.trans hcurrent⟩
  rw [foundStored?, ← hnames.1, ← hnames.2, Snapshot.takeWhile_name_ne usable hsplit]
  exact hstored

/-- Of the tables that a run leaves out as unchanged, exactly those are up to date that stand in
the snapshot under their names and of which no change was missed. -/
theorem upToDate_iff_not_missed (history : History site runs s) {snapshot : Snapshot}
    (usable : snapshot.defect? = none) {g : Generator} {sync : SyncResult} {plan : GenerationPlan}
    (h : Procedure.Runs site.step (g.prepare snapshot) s (.ok (sync, plan)) s')
    {e : TablePlan} (he : e ∈ plan.tables) (hreason : e.reason = .noChanges) :
    UpToDate runs snapshot e ↔ (tableOf? snapshot e).isSome ∧ ¬ Missed runs snapshot e := by
  obtain ⟨fresh, now, now', hsync, rfl⟩ := Generator.of_prepare_ok h
  obtain ⟨key, r, hr, hstamp, hname, hschema, hreport⟩ := GenerationPlan.of_noChanges he hreason
  have hstored : ∀ t, tableOf? snapshot e = some t → ∃ stored,
      foundStored? runs snapshot e = some stored ∧
        Fingerprint.ofTable stored = Fingerprint.ofTable t := by
    intro t ht
    refine stored_of_not_reported fresh now history.kept usable ht ?_
    rwa [hsync]
  have hgenerated : (lastGenerated? runs e.schemaName e.tableName).isSome := by
    have hstamped := history.kept.stamped.sync fresh now snapshot
    rw [hsync] at hstamped
    rw [hname, hschema]
    exact hstamped key r hr hstamp
  constructor
  · rintro ⟨generated, current, hlast, htable, hsame⟩
    refine ⟨by rw [htable]; rfl, ?_⟩
    rintro ⟨generated', stored, hlast', hfound, hdiffer⟩
    obtain ⟨stored', hfound', hcurrent⟩ := hstored current htable
    rw [hlast] at hlast'
    rw [hfound] at hfound'
    cases hlast'
    cases hfound'
    exact hdiffer (hsame.trans hcurrent.symm)
  · rintro ⟨htable, hmissed⟩
    obtain ⟨current, htable⟩ := Option.isSome_iff_exists.1 htable
    obtain ⟨generated, hlast⟩ := Option.isSome_iff_exists.1 hgenerated
    obtain ⟨stored, hfound, hcurrent⟩ := hstored current htable
    refine ⟨generated, current, hlast, htable, ?_⟩
    by_cases hsame : Fingerprint.ofTable generated = Fingerprint.ofTable stored
    · exact hsame.trans hcurrent
    · exact absurd ⟨generated, stored, hlast, hfound, hsame⟩ hmissed

end Site.History

/-! ## A change that is missed

A table is generated, it changes, and the template is gone when it should be generated again. The
next plan leaves it out, although the file still is that of the table before the change.
-/

namespace MissedChange

open Episode Generator Site.History

/-- A table whose only key column has a given name. -/
def keyed (column : String) : Table :=
  ⟨"Item", "dbo", [], [], [column]⟩

/-- A snapshot with one table. -/
def snapshotOf (t : Table) : Snapshot :=
  ⟨"shop", "local", "1", default, [t], []⟩

def oneArtifact : Generator :=
  ⟨[], [⟨"m", "m.txt"⟩], ⟨"out"⟩, false⟩

theorem generated?_keyed {column : String} {report : RunReport} :
    (Episode.mk (snapshotOf (keyed column)) report).generated? "dbo" "Item" =
      if report.tablesGenerated.contains "Item" then some (keyed column) else none := rfl

/-- A workplace whose only file is the template. -/
def furnished : Workplace :=
  { keeper := .memory
    templateRoot := ⟨"/"⟩
    world :=
      { disk := ⟨(∅ : Std.ExtTreeMap Disk.Location Disk.Entry).insert ["m.j2"] (.file ⟨#[65]⟩), []⟩
        now := default
        issued := 0
        cancelled := false }
    memory := ⟨.empty, []⟩
    templates := default
    locks := default }

/-- The workplace after everything on its disk was removed. -/
def cleared (w : Workplace) : Workplace :=
  { w with world := { w.world with disk := ⟨∅, []⟩ }, templates := default }

theorem keeper_cleared (w : Workplace) : (cleared w).keeper = w.keeper := rfl

theorem memory_cleared (w : Workplace) : (cleared w).memory = w.memory := rfl

def generated : Outcome RunReport × Workplace :=
  furnished.run oneArtifact (snapshotOf (keyed "id"))

def failed : Outcome RunReport × Workplace :=
  (cleared generated.2).run oneArtifact (snapshotOf (keyed "code"))

/-- What is prepared at a workplace for a snapshot with one table. -/
def prepared (w : Workplace) (t : Table) : Outcome (SyncResult × GenerationPlan) × Workplace :=
  Script.run Workplace.answer (oneArtifact.prepare (snapshotOf t)).run w

/-- The only entry of a plan, as the reason and the table that it names. -/
def entries (outcome : Outcome (SyncResult × GenerationPlan)) :
    Outcome (List (PlanReason × String × String)) :=
  outcome.map fun p => p.2.tables.map fun e => (e.reason, e.schemaName, e.tableName)

set_option maxRecDepth 100000 in
theorem prepared_generated : generated.1.map RunReport.tablesGenerated = .ok ["Item"] ∧
    entries (prepared generated.2 (keyed "id")).1 = .ok [(.noChanges, "dbo", "Item")] := by
  decide +kernel

set_option maxRecDepth 100000 in
theorem prepared_failed : failed.1.map RunReport.tablesGenerated = .ok [] ∧
    entries (prepared failed.2 (keyed "code")).1 = .ok [(.noChanges, "dbo", "Item")] ∧
    Fingerprint.ofTable (keyed "id") ≠ Fingerprint.ofTable (keyed "code") := by
  decide +kernel

theorem exists_of_map_eq_ok {α β : Type} {outcome : Outcome α} {f : α → β} {b : β}
    (h : outcome.map f = .ok b) : ∃ a, outcome = .ok a ∧ f a = b := by
  cases outcome with
  | error failure => cases h
  | ok a =>
    cases h
    exact ⟨a, rfl, rfl⟩

/-- A run at a workplace that ends with a report goes on with its history. -/
theorem run_workplace {runs : List Episode} {w : Workplace}
    (history : Site.History Workplace.inMemory runs w) (hw : w.keeper = .memory) {t : Table}
    (usable : (snapshotOf t).defect? = none) {report : RunReport}
    (h : (w.run oneArtifact (snapshotOf t)).1 = .ok report) :
    Site.History Workplace.inMemory (⟨snapshotOf t, report⟩ :: runs)
      (w.run oneArtifact (snapshotOf t)).2 := by
  refine history.run oneArtifact _ usable report ?_
  rw [← h]
  exact (Workplace.runs_inMemory _ hw).1

theorem clear_workplace {runs : List Episode} {w : Workplace}
    (history : Site.History Workplace.inMemory runs w) :
    Site.History Workplace.inMemory runs (cleared w) :=
  history.interlude [] (congrArg MetadataDocument.state (memory_cleared w))

theorem runs_prepared {w : Workplace} (hw : w.keeper = .memory) {t : Table}
    {entry : PlanReason × String × String} (h : entries (prepared w t).1 = .ok [entry]) :
    ∃ sync plan e, Procedure.Runs Workplace.inMemory.step (oneArtifact.prepare (snapshotOf t)) w
        (.ok (sync, plan)) (prepared w t).2 ∧
      e ∈ plan.tables ∧ (e.reason, e.schemaName, e.tableName) = entry := by
  obtain ⟨⟨sync, plan⟩, hprepared, hentries⟩ := exists_of_map_eq_ok h
  have hruns := (Workplace.runs_inMemory (oneArtifact.prepare (snapshotOf t)) hw).1
  obtain ⟨e, he, hentry⟩ := List.mem_map.1 (hentries ▸ List.mem_singleton_self entry)
  refine ⟨sync, plan, e, ?_, he, hentry⟩
  rw [← hprepared]
  exact hruns

/-- The table that was generated and did not change is up to date. -/
theorem upToDate_after_generated : ∃ runs sync plan e,
    Site.History Workplace.inMemory runs generated.2 ∧ (snapshotOf (keyed "id")).defect? = none ∧
      Procedure.Runs Workplace.inMemory.step (oneArtifact.prepare (snapshotOf (keyed "id")))
        generated.2 (.ok (sync, plan)) (prepared generated.2 (keyed "id")).2 ∧
      e ∈ plan.tables ∧ e.reason = .noChanges ∧ UpToDate runs (snapshotOf (keyed "id")) e := by
  obtain ⟨hnames, hentries⟩ := prepared_generated
  obtain ⟨report, hreport, hnames⟩ := exists_of_map_eq_ok hnames
  have hkeeper : generated.2.keeper = .memory := (Workplace.runs_inMemory _ rfl).2
  have history := run_workplace (.start rfl) rfl (t := keyed "id") rfl hreport
  obtain ⟨sync, plan, e, hruns, he, hentry⟩ := runs_prepared hkeeper hentries
  simp only [Prod.mk.injEq] at hentry
  obtain ⟨hreason, hschema, hname⟩ := hentry
  refine ⟨_, sync, plan, e, history, rfl, hruns, he, hreason, ?_⟩
  refine (upToDate_iff_not_missed history rfl hruns he hreason).2 ⟨?_, ?_⟩
  · simp [tableOf?, snapshotOf, keyed, hschema, hname]
  · rintro ⟨last, stored, hlast, hstored, hdiffer⟩
    rw [hschema, hname, lastGenerated?, List.findSome?_cons, generated?_keyed, hnames] at hlast
    rw [foundStored?, hschema, hname] at hstored
    cases hlast
    cases hstored
    exact hdiffer rfl

/-- The table that changed and could not be generated is left out as unchanged, although it is not
up to date. -/
theorem missed_change_left_out : ∃ runs sync plan e,
    Site.History Workplace.inMemory runs failed.2 ∧ (snapshotOf (keyed "code")).defect? = none ∧
      Procedure.Runs Workplace.inMemory.step (oneArtifact.prepare (snapshotOf (keyed "code")))
        failed.2 (.ok (sync, plan)) (prepared failed.2 (keyed "code")).2 ∧
      e ∈ plan.tables ∧ e.reason = .noChanges ∧ ¬ UpToDate runs (snapshotOf (keyed "code")) e := by
  obtain ⟨hnames, -⟩ := prepared_generated
  obtain ⟨report, hreport, hnames⟩ := exists_of_map_eq_ok hnames
  obtain ⟨hnone, hentries, hdiffer⟩ := prepared_failed
  obtain ⟨report', hreport', hnone⟩ := exists_of_map_eq_ok hnone
  have hkeeper : generated.2.keeper = .memory := (Workplace.runs_inMemory _ rfl).2
  rw [← keeper_cleared] at hkeeper
  have history := run_workplace (.start rfl) rfl (t := keyed "id") rfl hreport
  have history' := run_workplace (clear_workplace history) hkeeper (t := keyed "code") rfl hreport'
  obtain ⟨sync, plan, e, hruns, he, hentry⟩ :=
    runs_prepared (w := failed.2) (Workplace.runs_inMemory _ hkeeper).2 hentries
  simp only [Prod.mk.injEq] at hentry
  obtain ⟨hreason, hschema, hname⟩ := hentry
  refine ⟨_, sync, plan, e, history', rfl, hruns, he, hreason, ?_⟩
  rintro ⟨last, current, hlast, hcurrent, hsame⟩
  rw [hschema, hname, lastGenerated?, List.findSome?_cons, generated?_keyed, hnone,
    List.findSome?_cons, generated?_keyed, hnames] at hlast
  rw [tableOf?, hschema, hname] at hcurrent
  cases hlast
  cases hcurrent
  exact hdiffer hsame

end MissedChange

end SchemaCodegen
