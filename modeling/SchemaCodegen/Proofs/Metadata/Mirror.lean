import Mathlib.Data.List.Nodup
import Mathlib.Data.String.Basic
import SchemaCodegen.Proofs.Metadata.Lineage
import SchemaCodegen.Proofs.Snapshot.Names

/-!
# Active metadata mirrors the snapshot

After a sync, what is active is what the snapshot has, whatever was synced before: the same keys,
the data and the hash of each entity, and for each table its own columns (`mirrors_sync`). Only the
names in a record need not be those of the entity: a key joins names by dots, so another entity may
have been filed under it before, and a record keeps the names that it began with
(`Moved.second_keeps_names`).
-/

namespace SchemaCodegen

/-! ## What records say -/

/-- The record says of a column what the snapshot says. -/
structure ColumnRecord.Shows (r : ColumnRecord) (c : Column) : Prop where
  dataType : r.dataType = c.dataType
  maxLength : r.maxLength = c.maxLength
  precision : r.precision = c.precision
  scale : r.scale = c.scale
  isNullable : r.isNullable = c.isNullable
  isPrimaryKey : r.isPrimaryKey = c.isPrimaryKey
  isIdentity : r.isIdentity = c.isIdentity
  isComputed : r.isComputed = c.isComputed
  isForeignKey : r.isForeignKey = c.isForeignKey
  referencedTable : r.referencedTable = c.referencedTable
  referencedColumn : r.referencedColumn = c.referencedColumn
  convention : r.convention = c.convention
  hash : r.hash.current = Fingerprint.ofColumn c

/-- The record says of an index what the snapshot says: its key columns in their order, numbered
from 1 on, and behind them the included ones. -/
structure IndexRecord.Shows (r : IndexRecord) (i : Index) : Prop where
  isUnique : r.isUnique = i.isUnique
  isClustered : r.isClustered = i.isClustered
  columnNames : r.columns.map (·.columnName) = i.columns ++ i.includedColumns.getD []
  column : ∀ {place : Nat} {c : IndexColumnRecord}, r.columns[place]? = some c →
    c.keyOrdinal = .ofNat (place + 1) ∧ (c.isDescending ↔ c.columnName ∈ i.descendingColumns) ∧
      (c.isIncluded ↔ i.columns.length ≤ place)
  hash : r.hash.current = Fingerprint.ofIndex i

/-- The record says of a relationship what the snapshot says. -/
structure RelationshipRecord.Shows (rec : RelationshipRecord) (r : Relationship) : Prop where
  foreignKeyName : rec.foreignKeyName = r.foreignKeyName
  cardinality : rec.cardinality = r.cardinality
  onDelete : rec.onDelete = r.onDelete
  onUpdate : rec.onUpdate = r.onUpdate
  hash : rec.hash.current = Fingerprint.ofRelationship r

theorem IndexRecord.map_columnName_columnsOf (i : Index) :
    (columnsOf i).map (·.columnName) = i.columns ++ i.includedColumns.getD [] := by
  rw [columnsOf, List.map_map]
  change List.map (Prod.fst ∘ Prod.fst) (List.zipIdx _) = _
  rw [← List.map_map, List.zipIdx_map_fst, List.map_append, List.map_map, List.map_map]
  simp [Function.comp_def]

theorem IndexRecord.of_getElem?_columnsOf {i : Index} {place : Nat} {c : IndexColumnRecord}
    (h : (columnsOf i)[place]? = some c) :
    c.keyOrdinal = .ofNat (place + 1) ∧ (c.isDescending ↔ c.columnName ∈ i.descendingColumns) ∧
      (c.isIncluded ↔ i.columns.length ≤ place) := by
  rw [columnsOf, List.getElem?_map, List.getElem?_zipIdx, Option.map_map, Option.map_eq_some_iff]
    at h
  obtain ⟨⟨name, isIncluded⟩, hnamed, rfl⟩ := h
  refine ⟨by simp, by simp, ?_⟩
  rw [List.getElem?_append, List.length_map] at hnamed
  split at hnamed
  all_goals
    next hplace =>
    rw [List.getElem?_map, Option.map_eq_some_iff] at hnamed
    obtain ⟨_, -, hname⟩ := hnamed
    cases hname
    simpa using hplace

theorem Metadata.shows_syncedColumn (fresh : RecordKey → Uuid) (t : Table) (id : Uuid) (c : Column)
    (found? : Option ColumnRecord) : (syncedColumn fresh t id c found?).Shows c := by
  cases found? with
  | none => exact ⟨rfl, rfl, rfl, rfl, rfl, rfl, rfl, rfl, rfl, rfl, rfl, rfl, rfl⟩
  | some r =>
    exact ⟨rfl, rfl, rfl, rfl, rfl, rfl, rfl, rfl, rfl, rfl, rfl, rfl, r.hash.current_rotate _⟩

theorem Metadata.shows_syncedIndex (fresh : RecordKey → Uuid) (t : Table) (id : Uuid) (i : Index)
    (found? : Option IndexRecord) : (syncedIndex fresh t id i found?).Shows i := by
  cases found? with
  | none =>
    exact ⟨rfl, rfl, IndexRecord.map_columnName_columnsOf i, IndexRecord.of_getElem?_columnsOf, rfl⟩
  | some r =>
    exact ⟨rfl, rfl, IndexRecord.map_columnName_columnsOf i, IndexRecord.of_getElem?_columnsOf,
      r.hash.current_rotate _⟩

theorem Metadata.shows_syncedRelationship (fresh : RecordKey → Uuid) (r : Relationship)
    (found? : Option RelationshipRecord) : (syncedRelationship fresh r found?).Shows r := by
  cases found? with
  | none => exact ⟨rfl, rfl, rfl, rfl, rfl⟩
  | some rec => exact ⟨rfl, rfl, rfl, rfl, rec.hash.current_rotate _⟩

/-! ## Records chosen by key -/

namespace Filed

variable {α : Type} {p : α → Bool} {records : Filed α} {keys : List String}

/-- The keys of the records with a property, in their order. -/
def keysWhere (p : α → Bool) (records : Filed α) : List String :=
  (records.toList.filter fun e => p e.2).map Prod.fst

theorem mem_keysWhere {k : String} :
    k ∈ records.keysWhere p ↔ ∃ r, records[k]? = some r ∧ p r = true := by
  simp only [keysWhere, List.mem_map, List.mem_filter, Prod.exists, exists_and_right,
    exists_eq_right, Std.ExtTreeMap.mem_toList_iff_getElem?_eq_some]

theorem nodup_keysWhere : (records.keysWhere p).Nodup := by
  refine List.Nodup.sublist (List.filter_sublist.map Prod.fst) ?_
  rw [Std.ExtTreeMap.map_fst_toList_eq_keys]
  exact Std.ExtTreeMap.nodup_keys

theorem pairwise_keysWhere : (records.keysWhere p).Pairwise (· < ·) := by
  refine List.Pairwise.sublist (List.filter_sublist.map Prod.fst) ?_
  rw [Std.ExtTreeMap.map_fst_toList_eq_keys]
  exact Std.ExtTreeMap.ordered_keys.imp compare_lt_iff_lt.1

theorem keysWhere_perm (hkeys : keys.Nodup)
    (h : ∀ k : String, (∃ r, records[k]? = some r ∧ p r = true) ↔ k ∈ keys) :
    (records.keysWhere p).Perm keys :=
  (List.perm_ext_iff_of_nodup nodup_keysWhere hkeys).2 fun k => mem_keysWhere.trans (h k)

theorem keys_perm (hkeys : keys.Nodup) (h : ∀ k : String, records[k]?.isSome ↔ k ∈ keys) :
    records.keys.Perm keys := by
  refine (List.perm_ext_iff_of_nodup Std.ExtTreeMap.nodup_keys hkeys).2 fun k => ?_
  rw [Std.ExtTreeMap.mem_keys, Std.ExtTreeMap.mem_iff_isSome_getElem?, h]

/-- Records with a property are what stands under their keys. -/
theorem filter_perm (h : (records.keysWhere p).Perm keys) :
    (((records.toList.map Prod.snd).filter p).map some).Perm (keys.map (records[·]?)) := by
  refine .trans (.of_eq ?_) (h.map (records[·]?))
  rw [keysWhere, List.map_map, List.filter_map, List.map_map]
  refine List.map_congr_left fun e he => ?_
  exact (Std.ExtTreeMap.mem_toList_iff_getElem?_eq_some.1 (List.mem_filter.1 he).1).symm

end Filed

/-! ## What is active -/

namespace Metadata

section Active

variable {fresh : RecordKey → Uuid} {now : Instant} {s : Snapshot} {m : Metadata}

theorem activeTables_perm (hkeys : (s.tables.map Table.qualifiedName).Nodup) :
    ((m.sync fresh now s).1.tables.keysWhere TableRecord.isActive).Perm
      (s.tables.map Table.qualifiedName) := by
  refine Filed.keysWhere_perm hkeys fun k => ⟨fun ⟨r, hr, hon⟩ => mem_names_of_sync hr hon, ?_⟩
  intro hk
  obtain ⟨t, ht, rfl⟩ := List.mem_map.1 hk
  exact ⟨_, getElem?_sync_tables_of_mem fresh now hkeys ht, isActive_syncedRecord _⟩

theorem activeRelationships_perm (hkeys : (s.relationships.map Relationship.key).Nodup) :
    ((m.sync fresh now s).1.relationships.keysWhere RelationshipRecord.isActive).Perm
      (s.relationships.map Relationship.key) := by
  refine Filed.keysWhere_perm hkeys fun k => ⟨fun ⟨r, hr, hon⟩ => ?_, fun hk => ?_⟩
  · by_contra hk
    rw [getElem?_sync_relationships_of_not_mem hk, Option.map_eq_some_iff] at hr
    obtain ⟨_, -, rfl⟩ := hr
    exact Bool.noConfusion hon
  · obtain ⟨r, hr, rfl⟩ := List.mem_map.1 hk
    refine ⟨_, getElem?_sync_relationships_of_mem hkeys hr, ?_⟩
    cases m.relationships[r.key]? <;> rfl

namespace PartKind.Held

variable {α β : Type} {K : PartKind α β} {records : Metadata → Filed α} (h : K.Held fresh records)
    (howned : K.OwnedBy m.tables (records m)) (hids : IdsDiffer (m.sync fresh now s).1.tables)
    (htables : (s.tables.map Table.qualifiedName).Nodup) (hkeys : (K.keys s.tables).Nodup)

include h howned hids htables hkeys

/-- What is active belongs to a part of the snapshot and to the part's table. -/
theorem isActive_sync_iff (k : String) (id : Uuid) :
    (∃ r, (records (m.sync fresh now s).1)[k]? = some r ∧ K.isActive r ∧ K.tableId r = id) ↔
      ∃ t ∈ s.tables, ownerId (m.sync fresh now s).1.tables t = id ∧
        k ∈ (K.parts t).map (K.key t) := by
  constructor
  · rintro ⟨r, hr, hon, hid⟩
    have hk : k ∈ K.keys s.tables := by
      by_contra hk
      rw [h.getElem?_sync_of_not_mem howned hk, Option.map_eq_some_iff] at hr
      obtain ⟨r, -, rfl⟩ := hr
      rw [K.isActive_switchOff] at hon
      exact Bool.noConfusion hon
    obtain ⟨t, ht, hk⟩ := List.mem_flatMap.1 hk
    obtain ⟨b, hb, rfl⟩ := List.mem_map.1 hk
    rw [h.getElem?_sync_of_mem hids htables hkeys ht hb] at hr
    cases hr
    exact ⟨t, ht, (K.tableId_record ..).symm.trans hid, hk⟩
  · rintro ⟨t, ht, hid, hk⟩
    obtain ⟨b, hb, rfl⟩ := List.mem_map.1 hk
    exact ⟨_, h.getElem?_sync_of_mem hids htables hkeys ht hb, K.isActive_record ..,
      (K.tableId_record ..).trans hid⟩

theorem active_perm :
    ((records (m.sync fresh now s).1).keysWhere K.isActive).Perm (K.keys s.tables) := by
  refine Filed.keysWhere_perm hkeys fun k => ?_
  rw [keys, List.mem_flatMap]
  constructor
  · rintro ⟨r, hr, hon⟩
    obtain ⟨t, ht, -, hk⟩ :=
      (h.isActive_sync_iff howned hids htables hkeys k _).1 ⟨r, hr, hon, rfl⟩
    exact ⟨t, ht, hk⟩
  · rintro ⟨t, ht, hk⟩
    obtain ⟨r, hr, hon, -⟩ :=
      (h.isActive_sync_iff howned hids htables hkeys k _).2 ⟨t, ht, rfl, hk⟩
    exact ⟨r, hr, hon⟩

/-- The active records that belong to a table are those of its parts. -/
theorem active_perm_of_mem {t : Table} (ht : t ∈ s.tables) :
    ((records (m.sync fresh now s).1).keysWhere fun r =>
      K.tableId r == ownerId (m.sync fresh now s).1.tables t && K.isActive r).Perm
        ((K.parts t).map (K.key t)) := by
  refine Filed.keysWhere_perm ((List.nodup_flatMap.1 hkeys).1 t ht) fun k => ?_
  simp only [Bool.and_eq_true, beq_iff_eq, and_comm (a := K.tableId _ = _)]
  rw [h.isActive_sync_iff howned hids htables hkeys]
  constructor
  · rintro ⟨t', ht', hsame, hk⟩
    rwa [List.inj_on_of_nodup_map (nodup_ownerId hids htables) ht' ht hsame] at hk
  · exact fun hk => ⟨t, ht, rfl, hk⟩

end PartKind.Held

/-- What is active is what the snapshot has, with the data and the hash of each entity, and tables
have their own columns and indexes. -/
structure Mirrors (s : Snapshot) (m : Metadata) : Prop where
  activeTables : (m.tables.keysWhere TableRecord.isActive).Perm (s.tables.map Table.qualifiedName)
  activeColumns : (m.columns.keysWhere ColumnRecord.isActive).Perm s.columnKeys
  activeIndexes : (m.indexes.keysWhere IndexRecord.isActive).Perm s.indexKeys
  activeRelationships :
    (m.relationships.keysWhere RelationshipRecord.isActive).Perm
      (s.relationships.map Relationship.key)
  table : ∀ t ∈ s.tables, ∃ r, m.tables[t.qualifiedName]? = some r ∧
    r.hash.current = Fingerprint.ofTable t ∧
    ((m.columnsFor r.id).map some).Perm (t.columns.map fun c => m.columns[columnKey t c]?)
  column : ∀ t ∈ s.tables, ∀ c ∈ t.columns, ∃ r, m.columns[columnKey t c]? = some r ∧
    idOf? m.tables t.qualifiedName = some r.tableId ∧ r.Shows c
  index : ∀ t ∈ s.tables, ∀ i ∈ t.indexes, ∃ r, m.indexes[indexKey t i]? = some r ∧
    idOf? m.tables t.qualifiedName = some r.tableId ∧ r.Shows i
  relationship : ∀ r ∈ s.relationships, ∃ rec, m.relationships[r.key]? = some rec ∧ rec.Shows r

theorem id_of_getElem?_sync {t : Table} {r : TableRecord} (ht : t ∈ s.tables)
    (hr : (m.sync fresh now s).1.tables[t.qualifiedName]? = some r) :
    r.id = ownerId (m.sync fresh now s).1.tables t := by
  have hid := idOf?_sync_of_mem fresh now (m := m) ht
  rwa [idOf?, hr, Option.map_some, Option.some_inj] at hid

theorem Owned.mirrors (h : Owned m) (hfresh : m.Fresh fresh s) (hkeys : s.HasDistinctKeys)
    (hrelationships : (s.relationships.map Relationship.key).Nodup) :
    Mirrors s (m.sync fresh now s).1 := by
  have hids : IdsDiffer (m.sync fresh now s).1.tables := h.idsDiffer.sync hfresh
  have hcolumns := columns_held fresh
  have hindexes := indexes_held fresh
  refine ⟨activeTables_perm hkeys.tables,
    hcolumns.active_perm h.column hids hkeys.tables hkeys.columns,
    hindexes.active_perm h.index hids hkeys.tables hkeys.indexes,
    activeRelationships_perm hrelationships, fun t ht => ?_, fun t ht c hc => ?_,
    fun t ht i hi => ?_, fun r hr => ?_⟩
  · have hr := getElem?_sync_tables_of_mem fresh now (m := m) hkeys.tables ht
    refine ⟨_, hr, current_syncedRecord _, ?_⟩
    rw [id_of_getElem?_sync ht hr]
    have hperm := Filed.filter_perm
      (hcolumns.active_perm_of_mem h.column hids hkeys.tables hkeys.columns ht)
    rwa [List.map_map] at hperm
  · refine ⟨_, hcolumns.getElem?_sync_of_mem hids hkeys.tables hkeys.columns ht hc, ?_,
      shows_syncedColumn fresh t _ c _⟩
    rw [idOf?_sync_of_mem fresh now ht]
    exact congrArg some ((columnKind fresh).tableId_record ..).symm
  · refine ⟨_, hindexes.getElem?_sync_of_mem hids hkeys.tables hkeys.indexes ht hi, ?_,
      shows_syncedIndex fresh t _ i _⟩
    rw [idOf?_sync_of_mem fresh now ht]
    exact congrArg some ((indexKind fresh).tableId_record ..).symm
  · exact ⟨_, getElem?_sync_relationships_of_mem hrelationships hr,
      shows_syncedRelationship fresh r _⟩

end Active

/-- However metadata came about, a sync makes it mirror the snapshot, as long as no two entities
have one key. Its records are named as the first entities that ever had their keys. -/
theorem mirrors_sync {past : List Snapshot} {m : Metadata} {fresh : RecordKey → Uuid}
    {s : Snapshot} (h : Reachable past m) (hfresh : m.Fresh fresh s) (now : Instant)
    (hdefect : s.defect? = none) (hkeys : s.HasDistinctKeys) :
    Mirrors s (m.sync fresh now s).1 ∧ Named (past ++ [s]) (m.sync fresh now s).1 :=
  ⟨h.owned.mirrors hfresh hkeys (Snapshot.nodup_relationshipKeys hdefect),
    h.named.sync fresh now s⟩

/-! ### A column that moves between tables under one key -/

namespace Moved

def integer (name : String) : Column :=
  ⟨name, "int", none, none, none, false, false, false, false, false, none, none, .none, ∅⟩

def table (name : String) (columns : List String) : Table :=
  ⟨name, "dbo", columns.map integer, [], []⟩

/-- A foreign key from `T.k` to a column of a table. -/
def reference (table column : String) : Relationship :=
  ⟨"FK_k", table, column, "T", "k", .oneToMany, "NO ACTION", "NO ACTION"⟩

def snapshot (tables : List Table) (r : Relationship) : Snapshot :=
  ⟨"db", "server", "1", default, tables, [r]⟩

/-- A table with a dot in the name of a column. -/
def before : Snapshot :=
  snapshot [table "T" ["k", "x.y"]] (reference "T" "x.y")

/-- The dot is now in the name of another table. -/
def after : Snapshot :=
  snapshot [table "T" ["k"], table "T.x" ["y"]] (reference "T.x" "y")

/-- Numbers for the keys of both snapshots, from a given one on. -/
def idsFrom (n : Nat) (k : RecordKey) : Uuid :=
  .ofNumber (n + (before.recordKeys ++ after.recordKeys).idxOf k)

def first : Metadata :=
  (Metadata.empty.sync (idsFrom 0) default before).1

def second : Metadata :=
  (first.sync (idsFrom 100) default after).1

theorem fresh_of_forall {fresh : RecordKey → Uuid} {s : Snapshot} {m : Metadata}
    (h : ∀ k ∈ s.recordKeys, fresh k ∉ m.ids ∧ ∀ k' ∈ s.recordKeys, fresh k = fresh k' → k = k') :
    m.Fresh fresh s :=
  ⟨fun hk hk' => (h _ hk).2 _ hk', fun hk => (h _ hk).1⟩

theorem reachable_first : Reachable [before] first :=
  .sync .start (idsFrom 0) default before (fresh_of_forall (by decide))

theorem fresh_second : first.Fresh (idsFrom 100) after :=
  fresh_of_forall (by decide)

theorem hasDistinctKeys_after : after.HasDistinctKeys :=
  ⟨by decide, by decide, by decide⟩

theorem mirrors_second : Reachable [before] first ∧ first.Fresh (idsFrom 100) after ∧
    after.defect? = none ∧ after.HasDistinctKeys ∧ Mirrors after second ∧
      Named [before, after] second :=
  ⟨reachable_first, fresh_second, by decide, hasDistinctKeys_after,
    mirrors_sync reachable_first fresh_second default (by decide) hasDistinctKeys_after⟩

/-- The record of the moved column is still named as the column of the other table, and the
relationship still refers to it there. -/
theorem second_keeps_names : Reachable [before] first ∧ first.Fresh (idsFrom 100) after ∧
    after.defect? = none ∧ after.HasDistinctKeys ∧
    (∃ t ∈ after.tables, ∃ c ∈ t.columns, ∃ r, second.columns[columnKey t c]? = some r ∧
      r.isActive ∧ r.columnName ≠ c.name) ∧
    ∃ r ∈ after.relationships, ∃ rec, second.relationships[r.key]? = some rec ∧
      rec.isActive ∧ rec.ends ≠ r.ends := by
  refine ⟨reachable_first, fresh_second, by decide, hasDistinctKeys_after, ?_, ?_⟩
  · have hmoved : second.columns["dbo.T.x.y"]?.map (fun r => (r.isActive, r.columnName)) =
        some (true, "x.y") := by decide
    obtain ⟨r, hr, hshown⟩ := Option.map_eq_some_iff.1 hmoved
    refine ⟨_, List.mem_cons_of_mem _ List.mem_cons_self, _, List.mem_cons_self, r, hr, ?_⟩
    obtain ⟨hon, hname⟩ := Prod.mk.inj hshown
    rw [hon, hname]
    decide
  · have hreferring : second.relationships["T.x.y->T.k"]?.map (fun r => (r.isActive, r.ends)) =
        some (true, ("T", "x.y"), ("T", "k")) := by decide
    obtain ⟨r, hr, hshown⟩ := Option.map_eq_some_iff.1 hreferring
    refine ⟨_, List.mem_cons_self, r, hr, ?_⟩
    obtain ⟨hon, hends⟩ := Prod.mk.inj hshown
    rw [hon, hends]
    decide

end Moved

end Metadata

end SchemaCodegen
