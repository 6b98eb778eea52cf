import SchemaCodegen.Generation.Run
import SchemaCodegen.Proofs.Fingerprint.Shape
import SchemaCodegen.Proofs.Metadata.Reporting

/-!
# What is planned

A plan has one entry for each active table, under the key that its record stands under as long as
records are `WellFiled`, and these keys ascend (`GenerationPlan.pairwise_keys`). After a sync the
active tables are those of the snapshot, so where keys tell tables apart every entry is about a
table of the snapshot (`GenerationPlan.exists_table_of_mem`), and no two have one name
(`GenerationPlan.nodup_tableNames`). Although the report that a plan is made from knows tables by
their bare names only, each entry is decided by the record that stood under the table's own key
before it was synced (`GenerationPlan.tables_build_sync`).
-/

namespace SchemaCodegen

namespace Metadata

variable {m : Metadata} {past : List Snapshot}

/-- Every table's record stands under the key of its own names. -/
def WellFiled (m : Metadata) : Prop :=
  ∀ ⦃key : String⦄ ⦃r : TableRecord⦄, m.tables[key]? = some r →
    tableKey r.schemaName r.tableName = key

theorem Named.wellFiled (h : Named past m) : m.WellFiled := by
  intro key r hr
  have hnames := h.tables key
  rw [hr, Option.map_some, eq_comm, Option.map_eq_some_iff] at hnames
  obtain ⟨t, ht, hnames⟩ := hnames
  have hkey : t.qualifiedName = key := by simpa using List.find?_some ht
  obtain ⟨hschema, hname⟩ := Prod.mk.inj hnames
  rw [← hschema, ← hname, tableKey_qualifiedName, hkey]

theorem map_names_sync (fresh : RecordKey → Uuid) (now : Instant) (s : Snapshot) (m : Metadata)
    (k : String) : (m.sync fresh now s).1.tables[k]?.map TableRecord.names =
      (m.tables[k]?.map TableRecord.names).or
        ((s.tables.find? (·.qualifiedName == k)).map Table.names) :=
  map_getElem?_sync_tables (fun _ => rfl) (fun _ _ => rfl) (fun _ => rfl) k

theorem WellFiled.sync (h : m.WellFiled) (fresh : RecordKey → Uuid) (now : Instant)
    (s : Snapshot) : (m.sync fresh now s).1.WellFiled := by
  intro key r hr
  have hnames := map_names_sync fresh now s m key
  rw [hr, Option.map_some, eq_comm, Option.or_eq_some_iff] at hnames
  rcases hnames with hnames | ⟨-, hnames⟩
  · obtain ⟨r₀, hr₀, hnames⟩ := Option.map_eq_some_iff.1 hnames
    obtain ⟨hschema, hname⟩ := Prod.mk.inj hnames
    rw [← hschema, ← hname]
    exact h hr₀
  · obtain ⟨t, ht, hnames⟩ := Option.map_eq_some_iff.1 hnames
    obtain ⟨hschema, hname⟩ := Prod.mk.inj hnames
    rw [← hschema, ← hname]
    simpa using List.find?_some ht

theorem WellFiled.map_key_activeTables (h : m.WellFiled) :
    m.activeTables.map (fun r => tableKey r.schemaName r.tableName) =
      m.tables.keysWhere TableRecord.isActive := by
  rw [activeTables, Filed.keysWhere, List.filter_map, List.map_map]
  refine List.map_congr_left fun e he => ?_
  exact h (Std.ExtTreeMap.mem_toList_iff_getElem?_eq_some.1 (List.mem_filter.1 he).1)

theorem mem_activeTables {r : TableRecord} :
    r ∈ m.activeTables ↔ (∃ key : String, m.tables[key]? = some r) ∧ r.isActive = true := by
  rw [activeTables, List.mem_filter, List.mem_map]
  refine and_congr_left fun _ => ⟨?_, ?_⟩
  · rintro ⟨⟨key, r⟩, hmem, rfl⟩
    exact ⟨key, Std.ExtTreeMap.mem_toList_iff_getElem?_eq_some.1 hmem⟩
  · rintro ⟨key, hr⟩
    exact ⟨(key, r), Std.ExtTreeMap.mem_toList_iff_getElem?_eq_some.2 hr, rfl⟩

/-- After a sync, the active tables are tables of the snapshot, as far as keys tell. -/
theorem Named.exists_table_of_active (h : Named past m) {fresh : RecordKey → Uuid}
    {now : Instant} {s : Snapshot} (hkeys : KeysTell ((past ++ [s]).flatMap Snapshot.tables))
    {r : TableRecord} (hr : r ∈ (m.sync fresh now s).1.activeTables) :
    ∃ t ∈ s.tables, t.names = r.names := by
  obtain ⟨⟨key, hkey⟩, hactive⟩ := mem_activeTables.1 hr
  obtain ⟨t, ht, rfl⟩ := List.mem_map.1 (mem_names_of_sync hkey hactive)
  have hmem : t ∈ (past ++ [s]).flatMap Snapshot.tables :=
    List.mem_flatMap.2 ⟨s, List.mem_append_right _ List.mem_cons_self, ht⟩
  exact ⟨t, ht, ((h.sync fresh now s).names_eq hkeys hmem hkey).symm⟩

end Metadata

namespace TablePlan

/-- The natural key of the planned table. -/
def key (p : TablePlan) : String :=
  tableKey p.schemaName p.tableName

def names (p : TablePlan) : String × String :=
  (p.schemaName, p.tableName)

end TablePlan

namespace Generator

variable {s : Snapshot} {p : TablePlan} {t : Table}

theorem of_tableOf?_eq_some (h : tableOf? s p = some t) : t ∈ s.tables ∧ t.names = p.names := by
  refine ⟨List.mem_of_find?_eq_some h, ?_⟩
  have hnames := List.find?_some h
  rw [Bool.and_eq_true, beq_iff_eq, beq_iff_eq] at hnames
  exact Prod.ext hnames.2 hnames.1

theorem isSome_tableOf? (ht : t ∈ s.tables) (h : t.names = p.names) : (tableOf? s p).isSome := by
  obtain ⟨hschema, hname⟩ := Prod.mk.inj h
  exact List.find?_isSome.2 ⟨t, ht, by simp [hschema, hname]⟩

end Generator

namespace GenerationPlan

variable {m : Metadata} {sync : SyncResult} {includeUnchanged : Bool} {now : Instant}

theorem exists_of_mem_tables {p : TablePlan}
    (h : p ∈ (build m sync includeUnchanged now).tables) :
    ∃ r ∈ m.activeTables, p = entry sync includeUnchanged r := by
  obtain ⟨r, hr, rfl⟩ := List.mem_map.1 h
  exact ⟨r, hr, rfl⟩

theorem mem_tables_of_mem_toGenerate {plan : GenerationPlan} {p : TablePlan}
    (h : p ∈ plan.toGenerate) : p ∈ plan.tables :=
  (List.mem_filter.1 h).1

/-- Whatever is planned is known. -/
theorem mem_tables_of_mem {p : TablePlan} (h : m.WellFiled)
    (hp : p ∈ (build m sync includeUnchanged now).tables) : p.key ∈ m.tables := by
  obtain ⟨r, hr, rfl⟩ := exists_of_mem_tables hp
  obtain ⟨key, hkey⟩ := (Metadata.mem_activeTables.1 hr).1
  rw [Std.ExtTreeMap.mem_iff_isSome_getElem?]
  change m.tables[tableKey r.schemaName r.tableName]?.isSome
  rw [h hkey, hkey]
  rfl

/-- The keys of what is planned ascend. -/
theorem pairwise_keys (h : m.WellFiled) (sync : SyncResult) (includeUnchanged : Bool)
    (now : Instant) :
    ((build m sync includeUnchanged now).toGenerate.map TablePlan.key).Pairwise (· < ·) := by
  have hkeys : (build m sync includeUnchanged now).tables.map TablePlan.key =
      m.tables.keysWhere TableRecord.isActive := by
    rw [← h.map_key_activeTables, build, List.map_map]
    rfl
  refine List.Pairwise.sublist (List.filter_sublist.map TablePlan.key) ?_
  rw [hkeys]
  exact Filed.pairwise_keysWhere

section Synced

variable {past : List Snapshot} {fresh : RecordKey → Uuid} {syncedAt : Instant} {s : Snapshot}
  (hnamed : Metadata.Named past m) (hkeys : KeysTell ((past ++ [s]).flatMap Snapshot.tables))

include hnamed hkeys

/-- Every entry is about a table of the snapshot that was synced. -/
theorem exists_table_of_mem {p : TablePlan}
    (hp : p ∈ (build (m.sync fresh syncedAt s).1 sync includeUnchanged now).tables) :
    ∃ t ∈ s.tables, t.names = p.names := by
  obtain ⟨r, hr, rfl⟩ := exists_of_mem_tables hp
  exact hnamed.exists_table_of_active hkeys hr

/-- No two entries have one name. -/
theorem nodup_tableNames (usable : s.defect? = none) (fresh : RecordKey → Uuid)
    (syncedAt : Instant) (sync : SyncResult) (includeUnchanged : Bool) (now : Instant) :
    ((build (m.sync fresh syncedAt s).1 sync includeUnchanged now).toGenerate.map
      TablePlan.tableName).Nodup := by
  have hordered := pairwise_keys (hnamed.wellFiled.sync fresh syncedAt s) sync includeUnchanged now
  have hnodup := hordered.imp fun h => h.ne
  refine (List.nodup_map_iff_inj_on (List.Nodup.of_map _ hnodup)).2 fun p hp p' hp' hname => ?_
  obtain ⟨t, ht, hnames⟩ := exists_table_of_mem hnamed hkeys (mem_tables_of_mem_toGenerate hp)
  obtain ⟨t', ht', hnames'⟩ := exists_table_of_mem hnamed hkeys (mem_tables_of_mem_toGenerate hp')
  have hsame : t = t' := by
    refine List.inj_on_of_nodup_map (Snapshot.nodup_tableNames usable) ht ht' ?_
    exact (Prod.mk.inj hnames).2.trans (hname.trans (Prod.mk.inj hnames').2.symm)
  obtain ⟨hschema, hname⟩ := Prod.mk.inj (hnames.symm.trans (hsame ▸ hnames'))
  refine List.inj_on_of_nodup_map hnodup hp hp' ?_
  rw [TablePlan.key, hschema, hname, TablePlan.key]

end Synced

end GenerationPlan

/-! ## What entries are decided by -/

namespace Metadata

variable {past : List Snapshot} {fresh : RecordKey → Uuid} {now : Instant} {s : Snapshot}
  {m : Metadata} {t : Table}

/-- After a sync the active tables are those of the snapshot, in the order of their keys. -/
theorem activeTables_sync (hkeys : (s.tables.map Table.qualifiedName).Nodup) :
    (m.sync fresh now s).1.activeTables = (Fingerprint.byName Table.qualifiedName s.tables).map
      fun t => syncedRecord fresh now t m.tables[t.qualifiedName]? := by
  have hlisted : (m.sync fresh now s).1.tables.toList.filter (fun e => e.2.isActive) =
      (Fingerprint.byName Table.qualifiedName s.tables).map
        fun t => (t.qualifiedName, syncedRecord fresh now t m.tables[t.qualifiedName]?) := by
    refine Filed.filter_toList_eq (List.pairwise_map.2 (Fingerprint.pairwise_lt_byName hkeys)) ?_
    rintro ⟨k, r⟩
    simp only [List.mem_map, (Fingerprint.byName_perm _ _).mem_iff, Prod.mk.injEq]
    constructor
    · rintro ⟨t, ht, rfl, rfl⟩
      exact ⟨getElem?_sync_tables_of_mem fresh now hkeys ht, isActive_syncedRecord _⟩
    · rintro ⟨hr, hactive⟩
      obtain ⟨t, ht, rfl⟩ := List.mem_map.1 (mem_names_of_sync hr hactive)
      rw [getElem?_sync_tables_of_mem fresh now hkeys ht] at hr
      exact ⟨t, ht, rfl, Option.some_inj.1 hr⟩
  rw [activeTables, List.filter_map]
  refine (congrArg (List.map Prod.snd) hlisted).trans ?_
  rw [List.map_map]
  rfl

/-- Where keys tell tables apart, the record that is left for a table is named as the table. -/
theorem Named.names_syncedRecord (h : Named past m)
    (hkeys : KeysTell ((past ++ [s]).flatMap Snapshot.tables))
    (hdistinct : (s.tables.map Table.qualifiedName).Nodup) (ht : t ∈ s.tables) :
    (syncedRecord fresh now t m.tables[t.qualifiedName]?).names = t.names :=
  (h.sync fresh now s).names_eq hkeys
    (List.mem_flatMap.2 ⟨s, List.mem_append_right _ List.mem_cons_self, ht⟩)
    (getElem?_sync_tables_of_mem fresh now hdistinct ht)

/-- Where bare names differ, a list of them tells which tables were chosen. -/
theorem name_mem_iff {ts : List Table} (hnames : (ts.map Table.name).Nodup) (ht : t ∈ ts)
    (p : Table → Bool) : t.name ∈ (ts.filter p).map Table.name ↔ p t = true := by
  rw [List.mem_map]
  constructor
  · rintro ⟨t', ht', hname⟩
    obtain ⟨hmem, hp⟩ := List.mem_filter.1 ht'
    rwa [← List.inj_on_of_nodup_map hnames hmem ht hname]
  · exact fun hp => ⟨t, List.mem_filter.2 ⟨ht, hp⟩, rfl⟩

section Reported

variable (usable : s.defect? = none) (hkeys : (s.tables.map Table.qualifiedName).Nodup)
  (ht : t ∈ s.tables)

include usable hkeys ht

theorem contains_newTables : (m.sync fresh now s).2.newTables.contains t.name =
    m.tables[t.qualifiedName]?.isNone := by
  rw [Bool.eq_iff_iff, List.contains_iff_mem, newTables_eq hkeys,
    name_mem_iff (Snapshot.nodup_tableNames usable) ht, decide_eq_true_eq, newsOf_eq_new_iff,
    Option.isNone_iff_eq_none]

theorem contains_modifiedTables : (m.sync fresh now s).2.modifiedTables.contains t.name =
    m.tables[t.qualifiedName]?.any (·.hash.current ≠ Fingerprint.ofTable t) := by
  rw [Bool.eq_iff_iff, List.contains_iff_mem, modifiedTables_eq hkeys,
    name_mem_iff (Snapshot.nodup_tableNames usable) ht, decide_eq_true_eq, newsOf_eq_modified_iff,
    Option.any_eq_true]
  simp only [decide_eq_true_eq]

end Reported

end Metadata

/-- The entry of a table, told from the table and from the record that stood under its own key
before it was synced. Where there was none, the table was never generated and has the standard
flags. -/
def TablePlan.ofFound (includeUnchanged : Bool) (t : Table) (found? : Option TableRecord) :
    TablePlan :=
  let r := found?.getD (.create default (Fingerprint.ofTable t) default t)
  let isNew := found?.isNone
  let hasSchemaChanged := isNew || found?.any (·.hash.current ≠ Fingerprint.ofTable t)
  { tableName := t.name
    schemaName := t.schemaName
    isNew := isNew
    hasSchemaChanged := hasSchemaChanged
    requiresGeneration :=
      r.flags.any && (isNew || hasSchemaChanged || r.lastGenerated.isNone || includeUnchanged)
    reason := GenerationPlan.reasonFor r isNew hasSchemaChanged includeUnchanged
    currentHash := Fingerprint.ofTable t
    previousHash := (r.hash.rotate (Fingerprint.ofTable t)).previous
    flags := r.flags }

namespace GenerationPlan

open Metadata (syncedRecord)

section Decided

variable {past : List Snapshot} {fresh : RecordKey → Uuid} {syncedAt : Instant} {s : Snapshot}
  {m : Metadata} {t : Table} {includeUnchanged : Bool}

theorem requiresGeneration_reasonFor (r : TableRecord) (isNew hasSchemaChanged : Bool)
    (includeUnchanged : Bool) :
    (reasonFor r isNew hasSchemaChanged includeUnchanged).requiresGeneration =
      (r.flags.any &&
        (isNew || hasSchemaChanged || r.lastGenerated.isNone || includeUnchanged)) := by
  rw [reasonFor]
  cases r.flags.any <;> cases isNew <;> cases hasSchemaChanged <;> cases r.lastGenerated <;>
    cases includeUnchanged <;> rfl

/-- The entry of a record that a sync has left, if it is named as its table. -/
theorem entry_syncedRecord (usable : s.defect? = none)
    (hkeys : (s.tables.map Table.qualifiedName).Nodup) (ht : t ∈ s.tables)
    (hnames : (syncedRecord fresh syncedAt t m.tables[t.qualifiedName]?).names = t.names) :
    entry (m.sync fresh syncedAt s).2 includeUnchanged
        (syncedRecord fresh syncedAt t m.tables[t.qualifiedName]?) =
      .ofFound includeUnchanged t m.tables[t.qualifiedName]? := by
  obtain ⟨hschema, hname⟩ := Prod.mk.inj hnames
  simp only [entry, hname, hschema, Metadata.contains_newTables usable hkeys ht,
    Metadata.contains_modifiedTables usable hkeys ht, requiresGeneration_reasonFor]
  cases m.tables[t.qualifiedName]? with
  | none =>
    simp only [TablePlan.ofFound, Option.getD_none, TableRecord.create, HashPair.rotate_first]
    rfl
  | some r =>
    simp only [TablePlan.ofFound, syncedRecord, TableRecord.refresh, HashPair.current_rotate]
    rfl

/-- After a sync the plan has one entry for each table of the snapshot, in the order of their keys,
and each is decided by what was stored under the table's own key, as long as no two tables that
were ever synced have one key. -/
theorem tables_build_sync (h : Metadata.Reachable past m) (usable : s.defect? = none)
    (hkeys : KeysTell ((past ++ [s]).flatMap Snapshot.tables)) (fresh : RecordKey → Uuid)
    (syncedAt : Instant) (includeUnchanged : Bool) (now : Instant) :
    (build (m.sync fresh syncedAt s).1 (m.sync fresh syncedAt s).2 includeUnchanged now).tables =
      (Fingerprint.byName Table.qualifiedName s.tables).map fun t =>
        .ofFound includeUnchanged t m.tables[t.qualifiedName]? := by
  have hsub : s.tables ⊆ (past ++ [s]).flatMap Snapshot.tables := fun t ht =>
    List.mem_flatMap.2 ⟨s, List.mem_append_right _ List.mem_cons_self, ht⟩
  have hdistinct := (hkeys.mono hsub).nodup_qualifiedNames usable
  rw [build, Metadata.activeTables_sync hdistinct, List.map_map]
  refine List.map_congr_left fun t ht => ?_
  have ht : t ∈ s.tables := (Fingerprint.byName_perm _ _).mem_iff.1 ht
  exact entry_syncedRecord usable hdistinct ht (h.named.names_syncedRecord hkeys hdistinct ht)

end Decided

/-! ### A table whose bare name was in another schema before -/

namespace Namesake

def table (schema : String) : Table :=
  ⟨"T", schema, [], [], []⟩

def snapshot (tables : List Table) : Snapshot :=
  ⟨"db", "server", "1", default, tables, []⟩

def past : List Snapshot :=
  [snapshot [table "dbo"], snapshot []]

/-- What is left when the table `dbo.T` has been there and is gone. -/
def stored : Metadata :=
  let first := (Metadata.empty.sync (fun _ => default) default (snapshot [table "dbo"])).1
  (first.sync (fun _ => default) default (snapshot [])).1

def moved : Snapshot :=
  snapshot [table "app"]

theorem reachable_stored : Metadata.Reachable past stored :=
  .sync (.sync .start _ _ _ (Metadata.Moved.fresh_of_forall (by decide))) _ _ _
    (Metadata.Moved.fresh_of_forall (by decide))

theorem tables_build_moved : Metadata.Reachable past stored ∧ moved.defect? = none ∧
    KeysTell ((past ++ [moved]).flatMap Snapshot.tables) ∧
    (build (stored.sync (fun _ => default) default moved).1
      (stored.sync (fun _ => default) default moved).2 false default).tables =
        [.ofFound false (table "app") none] := by
  have usable : moved.defect? = none := by decide
  have hkeys : KeysTell ((past ++ [moved]).flatMap Snapshot.tables) := by decide
  have hfound : stored.tables[(table "app").qualifiedName]? = none := by decide
  refine ⟨reachable_stored, usable, hkeys,
    (tables_build_sync reachable_stored usable hkeys _ _ false default).trans ?_⟩
  rw [Fingerprint.byName, moved, snapshot, List.mergeSort_singleton, List.map_singleton, hfound]

example : (TablePlan.ofFound false (table "app") none).requiresGeneration = true := by decide

end Namesake

end GenerationPlan

end SchemaCodegen
