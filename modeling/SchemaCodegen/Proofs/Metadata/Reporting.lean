import SchemaCodegen.Proofs.Metadata.Mirror

/-!
# What a sync reports

A sync files its tables one after the other, but where their keys differ, what it reports of each
follows from the records that were there before (`newsOf`): `newTables_eq` and `modifiedTables_eq`
list the new and the modified tables in the order of the snapshot, and `deactivatedTables_eq` those
that are gone in the order of their keys. In the same way the columns that count as changed are told
from the records that were there before (`columnsChanged_eq`). So all that a sync reports can be
read off the snapshot and the records as they were (`snd_sync_eq_reportOf`).
-/

namespace SchemaCodegen

/-- These tables have one key only where they have one schema and name. A key joins the two by a
dot, and dots may be in either. -/
def KeysTell (ts : List Table) : Prop :=
  ∀ t ∈ ts, ∀ t' ∈ ts, t.qualifiedName = t'.qualifiedName → t.names = t'.names

instance (ts : List Table) : Decidable (KeysTell ts) :=
  inferInstanceAs (Decidable (∀ t ∈ ts, ∀ t' ∈ ts, _ → _))

theorem Table.qualifiedName_eq_of_names_eq {t t' : Table} (h : t.names = t'.names) :
    t.qualifiedName = t'.qualifiedName := by
  obtain ⟨hschema, hname⟩ := Prod.mk.inj h
  rw [← tableKey_qualifiedName, hschema, hname, tableKey_qualifiedName]

namespace KeysTell

variable {ts ts' : List Table}

theorem mono (h : KeysTell ts') (hsub : ts ⊆ ts') : KeysTell ts :=
  fun t ht t' ht' => h t (hsub ht) t' (hsub ht')

theorem qualifiedName_eq_iff (h : KeysTell ts) {t t' : Table} (ht : t ∈ ts) (ht' : t' ∈ ts) :
    t.qualifiedName = t'.qualifiedName ↔ t.names = t'.names :=
  ⟨h t ht t' ht', Table.qualifiedName_eq_of_names_eq⟩

/-- Where keys tell tables apart, those of a usable snapshot have different ones. -/
theorem nodup_qualifiedNames {s : Snapshot} (h : KeysTell s.tables) (hs : s.defect? = none) :
    (s.tables.map Table.qualifiedName).Nodup := by
  have hnames := Snapshot.nodup_tableNames hs
  refine (List.nodup_map_iff_inj_on hnames.of_map).2 fun t ht t' ht' hkey => ?_
  exact List.inj_on_of_nodup_map hnames ht ht' (Prod.mk.inj (h t ht t' ht' hkey)).2

end KeysTell

theorem Filed.nodup_toList {α : Type} (records : Filed α) : records.toList.Nodup := by
  refine List.Nodup.of_map Prod.fst ?_
  rw [Std.ExtTreeMap.map_fst_toList_eq_keys]
  exact Std.ExtTreeMap.nodup_keys

/-- The chosen records are listed in the order of their keys. -/
theorem Filed.filter_toList_eq {α : Type} {records : Filed α} {p : String × α → Bool}
    {l : List (String × α)} (hordered : l.Pairwise fun e e' => compare e.1 e'.1 = .lt)
    (hmem : ∀ e, e ∈ l ↔ records[e.1]? = some e.2 ∧ p e = true) : records.toList.filter p = l := by
  have hasymm : ∀ e e' : String × α, compare e.1 e'.1 = .lt → compare e'.1 e.1 = .lt → e = e' :=
    fun _ _ hlt hgt => absurd hgt (Std.OrientedCmp.not_lt_of_lt hlt)
  have hnodup : l.Nodup := hordered.imp fun hlt heq => by
    subst heq
    exact Std.OrientedCmp.not_lt_of_lt hlt hlt
  refine List.Perm.eq_of_pairwise (fun e e' _ _ => hasymm e e')
    (Std.ExtTreeMap.ordered_keys_toList.filter p) hordered ?_
  refine (List.perm_ext_iff_of_nodup (records.nodup_toList.filter p) hnodup).2 fun e => ?_
  rw [List.mem_filter, Std.ExtTreeMap.mem_toList_iff_getElem?_eq_some, hmem]

attribute [ext] SyncResult

namespace Metadata

/-- Where keys tell tables apart, a record is named as the tables that have its key. -/
theorem Named.names_eq {past : List Snapshot} {m : Metadata} (h : Named past m)
    (hkeys : KeysTell (past.flatMap Snapshot.tables)) {t : Table}
    (ht : t ∈ past.flatMap Snapshot.tables) {r : TableRecord}
    (hr : m.tables[t.qualifiedName]? = some r) : r.names = t.names := by
  have hnames := h.tables t.qualifiedName
  rw [hr, Option.map_some, eq_comm, Option.map_eq_some_iff] at hnames
  obtain ⟨first, hfirst, hnames⟩ := hnames
  have hkey : first.qualifiedName = t.qualifiedName := by simpa using List.find?_some hfirst
  exact hnames.symm.trans (hkeys first (List.mem_of_find?_eq_some hfirst) t ht hkey)

/-- What is new about a table, as seen from the records. -/
def newsOf (tables : Filed TableRecord) (t : Table) : TableNews :=
  match tables[t.qualifiedName]? with
  | some r => if r.hash.current = Fingerprint.ofTable t then .unchanged else .modified
  | none => .new

theorem news_eq_newsOf {fresh : RecordKey → Uuid} {now : Instant} {tables : Filed TableRecord}
    {t : Table} : (syncTableRecord fresh now tables t).2.2 = newsOf tables t := news_eq

theorem newsOf_eq_new_iff {tables : Filed TableRecord} {t : Table} :
    newsOf tables t = .new ↔ tables[t.qualifiedName]? = none := by
  rw [newsOf]
  split
  · next r hr =>
    rw [hr]
    split <;> simp
  · next hr => simp [hr]

theorem newsOf_eq_modified_iff {tables : Filed TableRecord} {t : Table} :
    newsOf tables t = .modified ↔
      ∃ r, tables[t.qualifiedName]? = some r ∧ r.hash.current ≠ Fingerprint.ofTable t := by
  rw [newsOf]
  split
  · next r hr =>
    rw [hr]
    split <;> simp_all
  · next hr => simp [hr]

/-- Filing one table is no news for tables with other keys. -/
theorem newsOf_step (fresh : RecordKey → Uuid) (now : Instant) (p : Progress) {t t' : Table}
    (h : t'.qualifiedName ≠ t.qualifiedName) :
    newsOf (p.step fresh now t).metadata.tables t' = newsOf p.metadata.tables t' := by
  rw [newsOf, step_tables, getElem?_syncTableRecord, if_neg h, newsOf]

/-- The tables that a sync reports as one kind of news are those that were so to begin with, as
long as no two of them have one key. -/
theorem foldl_step_reported {fresh : RecordKey → Uuid} {now : Instant} {news : TableNews}
    {names : Progress → List String}
    (hstep : ∀ p t, names (p.step fresh now t) =
      if newsOf p.metadata.tables t = news then names p ++ [t.name] else names p)
    {ts : List Table} (hkeys : (ts.map Table.qualifiedName).Nodup) (p : Progress) :
    names (ts.foldl (Progress.step fresh now) p) =
      names p ++ (ts.filter fun t => newsOf p.metadata.tables t = news).map Table.name := by
  induction ts generalizing p with
  | nil => simp
  | cons t ts ih =>
    rw [List.map_cons, List.nodup_cons] at hkeys
    have hrest : (ts.filter fun t' => newsOf (p.step fresh now t).metadata.tables t' = news) =
        ts.filter fun t' => newsOf p.metadata.tables t' = news := by
      refine List.filter_congr fun t' ht' => ?_
      have hne : t'.qualifiedName ≠ t.qualifiedName :=
        fun h => hkeys.1 (h ▸ List.mem_map_of_mem ht')
      rw [newsOf_step fresh now p hne]
    rw [List.foldl_cons, ih hkeys.2, hstep, hrest, List.filter_cons]
    by_cases hnews : newsOf p.metadata.tables t = news <;> simp [hnews]

/-- Whether a sync counts a column as changed: it has no record, or one with another fingerprint. -/
def isColumnNews (columns : Filed ColumnRecord) (t : Table) (c : Column) : Bool :=
  (columns[columnKey t c]?.map ColumnRecord.hash).all (·.rotates (Fingerprint.ofColumn c))

theorem isColumnNews_congr {columns columns' : Filed ColumnRecord} {t : Table} {c : Column}
    (h : columns'[columnKey t c]?.map ColumnRecord.hash =
      columns[columnKey t c]?.map ColumnRecord.hash) :
    isColumnNews columns' t c = isColumnNews columns t c := by
  rw [isColumnNews, h, isColumnNews]

section Columns

variable {fresh : RecordKey → Uuid} {t : Table} {id : Uuid}
  {columns : Filed ColumnRecord}

theorem syncColumn_eq (c : Column) : syncColumn fresh t id columns c =
    (Filed.file (columnKey t) (syncedColumn fresh t id) columns c, isColumnNews columns t c) := by
  simp only [syncColumn, Filed.file, isColumnNews]
  split
  · next r hr => rw [hr]; rfl
  · next hr => rw [hr]; rfl

/-- Filing a column is no news for columns with other keys. -/
theorem isColumnNews_file {c c' : Column} (h : columnKey t c' ≠ columnKey t c) :
    isColumnNews (Filed.file (columnKey t) (syncedColumn fresh t id) columns c) t c' =
      isColumnNews columns t c' :=
  isColumnNews_congr (by rw [Filed.getElem?_file, if_neg h])

/-- Of the columns of a table, those are counted that are news to begin with. -/
theorem snd_syncColumns (hkeys : (t.columns.map (columnKey t)).Nodup) :
    (syncColumns fresh t id columns).2 = t.columns.countP (isColumnNews columns t) := by
  simp only [syncColumns, syncColumn_eq]
  rw [← Nat.zero_add (List.countP ..)]
  generalize (0 : Nat) = counted
  generalize t.columns = cs at hkeys ⊢
  induction cs generalizing columns counted with
  | nil => rfl
  | cons c cs ih =>
    rw [List.map_cons, List.nodup_cons] at hkeys
    have hrest : cs.countP
        (isColumnNews (Filed.file (columnKey t) (syncedColumn fresh t id) columns c) t) =
          cs.countP (isColumnNews columns t) := by
      refine List.countP_congr fun c' hc' => ?_
      have hne : columnKey t c' ≠ columnKey t c := fun h => hkeys.1 (h ▸ List.mem_map_of_mem hc')
      rw [isColumnNews_file hne]
    rw [List.foldl_cons, ih _ hkeys.2, hrest, List.countP_cons]
    split <;> omega

/-- Syncing a table is no news for the columns of others. -/
theorem isColumnNews_sync {t' : Table} {c : Column}
    (h : columnKey t' c ∉ t.columns.map (columnKey t)) :
    isColumnNews ((columnKind fresh).sync t id columns) t' c = isColumnNews columns t' c := by
  refine isColumnNews_congr ?_
  rw [PartKind.getElem?_sync_of_not_mem h, Option.map_map]
  refine congrArg (fun f => columns[columnKey t' c]?.map f) (funext fun r => ?_)
  rw [Function.comp_apply]
  split <;> rfl

/-- Of the columns of all tables, those are counted that are news to begin with. -/
theorem foldl_step_columnsChanged (now : Instant) {ts : List Table}
    (hkeys : ((columnKind fresh).keys ts).Nodup) (p : Progress) :
    (ts.foldl (Progress.step fresh now) p).columnsChanged = p.columnsChanged +
      ((columnKind fresh).partsOf ts).countP fun e => isColumnNews p.metadata.columns e.1 e.2 := by
  induction ts generalizing p with
  | nil => rfl
  | cons t ts ih =>
    rw [PartKind.keys_cons, List.nodup_append] at hkeys
    obtain ⟨hown, hothers, hdisjoint⟩ := hkeys
    have hcolumns : (p.step fresh now t).metadata.columns =
        (columnKind fresh).sync t (syncTableRecord fresh now p.metadata.tables t).2.1
          p.metadata.columns := fst_syncColumns
    have hcount : (p.step fresh now t).columnsChanged =
        p.columnsChanged + t.columns.countP (isColumnNews p.metadata.columns t) :=
      congrArg (p.columnsChanged + ·) (snd_syncColumns hown)
    have hrest : ((columnKind fresh).partsOf ts).countP
          (fun e => isColumnNews (p.step fresh now t).metadata.columns e.1 e.2) =
        ((columnKind fresh).partsOf ts).countP
          fun e => isColumnNews p.metadata.columns e.1 e.2 := by
      refine List.countP_congr fun e he => ?_
      have hkey : columnKey e.1 e.2 ∉ t.columns.map (columnKey t) :=
        fun h => hdisjoint _ h _ (PartKind.mem_keys_of_mem_partsOf he) rfl
      rw [hcolumns, isColumnNews_sync hkey]
    rw [List.foldl_cons, ih hothers, hcount, hrest, PartKind.partsOf_cons, List.countP_append,
      List.countP_map, Nat.add_assoc]
    rfl

end Columns

section Sync

variable {fresh : RecordKey → Uuid} {now : Instant} {s : Snapshot} {m : Metadata}

theorem newTables_eq (hkeys : (s.tables.map Table.qualifiedName).Nodup) :
    (m.sync fresh now s).2.newTables =
      (s.tables.filter fun t => newsOf m.tables t = .new).map Table.name := by
  have hstep : ∀ (p : Progress) t, (p.step fresh now t).newTables =
      if newsOf p.metadata.tables t = .new then p.newTables ++ [t.name] else p.newTables := by
    intro p t
    rw [step_newTables, news_eq_newsOf]
  rw [sync_newTables, foldl_step_reported hstep hkeys, List.nil_append]

theorem modifiedTables_eq (hkeys : (s.tables.map Table.qualifiedName).Nodup) :
    (m.sync fresh now s).2.modifiedTables =
      (s.tables.filter fun t => newsOf m.tables t = .modified).map Table.name := by
  have hstep : ∀ (p : Progress) t, (p.step fresh now t).modifiedTables =
      if newsOf p.metadata.tables t = .modified then p.modifiedTables ++ [t.name]
      else p.modifiedTables := by
    intro p t
    rw [step_modifiedTables, news_eq_newsOf]
  rw [sync_modifiedTables, foldl_step_reported hstep hkeys, List.nil_append]

theorem mem_newTables (hkeys : (s.tables.map Table.qualifiedName).Nodup) {name : String} :
    name ∈ (m.sync fresh now s).2.newTables ↔
      ∃ t ∈ s.tables, m.tables[t.qualifiedName]? = none ∧ t.name = name := by
  simp only [newTables_eq hkeys, List.mem_map, List.mem_filter, decide_eq_true_eq,
    newsOf_eq_new_iff, and_assoc]

theorem sync_deactivatedTables : (m.sync fresh now s).2.deactivatedTables =
    retiredNames (s.tables.map Table.qualifiedName)
      (s.tables.foldl (Progress.step fresh now) ⟨m, [], [], 0⟩).metadata.tables := rfl

theorem retiredNames_eq (seen : List String) (tables : Filed TableRecord) :
    retiredNames seen tables =
      (tables.toList.filter fun e => isGone seen e.1 e.2).map (·.2.tableName) := by
  rw [retiredNames, ← List.filterMap_eq_map, List.filterMap_filter]
  rfl

theorem isGone_iff {seen : List String} {key : String} {r : TableRecord} :
    isGone seen key r = true ↔ r.isActive ∧ key ∉ seen := by
  rw [isGone, Bool.and_eq_true, Bool.not_eq_true', ← Bool.not_eq_true, List.contains_iff_mem]

/-- Gone are the tables that were active before and whose keys the snapshot does not have, in the
order of these keys. -/
theorem deactivatedTables_eq : (m.sync fresh now s).2.deactivatedTables =
    (m.tables.toList.filter fun e => isGone (s.tables.map Table.qualifiedName) e.1 e.2).map
      (·.2.tableName) := by
  rw [sync_deactivatedTables, retiredNames_eq]
  refine congrArg (List.map _) (Filed.filter_toList_eq
    (Std.ExtTreeMap.ordered_keys_toList.filter _) fun e => ?_)
  rw [List.mem_filter, Std.ExtTreeMap.mem_toList_iff_getElem?_eq_some, foldl_step_tables]
  refine and_congr_left fun hgone => ?_
  rw [Filed.getElem?_foldl_file_of_not_mem (isGone_iff.1 hgone).2]

theorem mem_deactivatedTables {name : String} :
    name ∈ (m.sync fresh now s).2.deactivatedTables ↔
      ∃ (key : String) (r : TableRecord), m.tables[key]? = some r ∧ r.isActive ∧
        key ∉ s.tables.map Table.qualifiedName ∧ r.tableName = name := by
  rw [deactivatedTables_eq, List.mem_map, Prod.exists]
  refine exists_congr fun key => exists_congr fun r => ?_
  rw [List.mem_filter, Std.ExtTreeMap.mem_toList_iff_getElem?_eq_some, isGone_iff]
  simp only [and_assoc]

/-- The columns that a sync counts as changed are those that were news to begin with, as long as no
two of them have one key. -/
theorem columnsChanged_eq (hkeys : s.columnKeys.Nodup) : (m.sync fresh now s).2.columnsChanged =
    s.columns.countP fun e => isColumnNews m.columns e.1 e.2 := by
  have hcounted := foldl_step_columnsChanged now
    (show ((columnKind fresh).keys s.tables).Nodup from hkeys) ⟨m, [], [], 0⟩
  rwa [Nat.zero_add] at hcounted

/-- No name is reported as gone twice, if the records that are active have different names. -/
theorem nodup_deactivatedTables
    (h : ∀ {key key' : String} {r r' : TableRecord}, m.tables[key]? = some r →
      m.tables[key']? = some r' → r.isActive → r'.isActive → r.tableName = r'.tableName →
        key = key') :
    (m.sync fresh now s).2.deactivatedTables.Nodup := by
  rw [deactivatedTables_eq]
  refine (List.nodup_map_iff_inj_on ((Filed.nodup_toList _).filter _)).2 ?_
  rintro ⟨key, r⟩ he ⟨key', r'⟩ he' hname
  rw [List.mem_filter, Std.ExtTreeMap.mem_toList_iff_getElem?_eq_some, isGone_iff] at he he'
  obtain rfl := h he.1 he'.1 he.2.1 he'.2.1 hname
  obtain rfl : r = r' := Option.some_inj.1 (he.1.symm.trans he'.1)
  rfl

/-! ## The whole report -/

/-- What there is to report of a sync, told from the snapshot and from the records before. A column
counts as changed if it has no record or one with another fingerprint. -/
def reportOf (now : Instant) (s : Snapshot) (m : Metadata) : SyncResult :=
  let newTables := s.tables.filter fun t => t.qualifiedName ∉ m.tables
  let modifiedTables := s.tables.filter fun t =>
    m.tables[t.qualifiedName]?.any (·.hash.current ≠ Fingerprint.ofTable t)
  let goneTables := m.tables.toList.filter fun (key, r) =>
    r.isActive ∧ key ∉ s.tables.map Table.qualifiedName
  { tablesChanged := newTables.length + modifiedTables.length
    tablesTotal := s.tables.length
    newTables := newTables.map Table.name
    modifiedTables := modifiedTables.map Table.name
    deactivatedTables := goneTables.map fun (_, r) => r.tableName
    columnsChanged := s.columns.countP fun (t, c) =>
      m.columns[columnKey t c]?.all (·.hash.current ≠ Fingerprint.ofColumn c)
    syncedAt := now }

/-- Although the records change while it looks at them, a sync judges every table and every column
by the record that was there before, and counts it once. -/
theorem snd_sync_eq_reportOf (fresh : RecordKey → Uuid) (now : Instant) (m : Metadata)
    (htables : (s.tables.map Table.qualifiedName).Nodup) (hcolumns : s.columnKeys.Nodup) :
    (m.sync fresh now s).2 = m.reportOf now s := by
  have hnew : (m.sync fresh now s).2.newTables = (m.reportOf now s).newTables := by
    rw [newTables_eq htables]
    simp only [newsOf_eq_new_iff, reportOf, Std.ExtTreeMap.mem_iff_isSome_getElem?,
      Option.not_isSome_iff_eq_none]
  have hmodified : (m.sync fresh now s).2.modifiedTables = (m.reportOf now s).modifiedTables := by
    rw [modifiedTables_eq htables]
    refine congrArg (List.map _) (List.filter_congr fun t _ => ?_)
    rw [Bool.eq_iff_iff, decide_eq_true_eq, newsOf_eq_modified_iff, Option.any_eq_true]
    simp only [decide_eq_true_eq]
  have hcount : (m.sync fresh now s).2.tablesChanged = (m.reportOf now s).tablesChanged := by
    change (m.sync fresh now s).2.newTables.length +
      (m.sync fresh now s).2.modifiedTables.length = _
    rw [hnew, hmodified, reportOf, List.length_map, List.length_map]
  refine SyncResult.ext hcount rfl hnew hmodified ?gone ?columns rfl
  case gone =>
    rw [deactivatedTables_eq]
    refine congrArg (List.map _) (List.filter_congr fun e _ => ?_)
    rw [Bool.eq_iff_iff, isGone_iff, decide_eq_true_eq]
  case columns =>
    rw [columnsChanged_eq hcolumns]
    refine List.countP_congr fun ⟨t, c⟩ _ => ?_
    rw [isColumnNews, Option.all_map, Option.all_eq_true, Option.all_eq_true]
    simp [HashPair.rotates]

end Sync

/-! ### A column that one table hands over to another -/

namespace HandedOver

open Moved (table reference)

def before : Snapshot :=
  Moved.snapshot [table "Old" [], table "T" ["x.y"]] (reference "T" "x.y")

def after : Snapshot :=
  Moved.snapshot [table "T" [], table "T.x" ["y"]] (reference "T.x" "y")

def stored : Metadata :=
  (Metadata.empty.sync (fun _ => default) default before).1

theorem report_after : (after.tables.map Table.qualifiedName).Nodup ∧ after.columnKeys.Nodup ∧
    (stored.sync (fun _ => default) default after).2 = stored.reportOf default after :=
  ⟨by decide, by decide,
    snd_sync_eq_reportOf (fun _ => default) default stored (by decide) (by decide)⟩

example : (stored.reportOf default after).newTables = ["T.x"] ∧
    (stored.reportOf default after).deactivatedTables = ["Old"] := by decide

end HandedOver

end Metadata

end SchemaCodegen
