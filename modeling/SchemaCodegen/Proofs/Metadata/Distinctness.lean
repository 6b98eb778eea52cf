import SchemaCodegen.Proofs.Metadata.Mirror

/-!
# One record for each entity

A first sync makes a record for each table, column and index, named as the entity, exactly when no
two of them have one key (`oneEach_sync_empty_iff`). The names in a snapshot do not ensure this: a
key joins names by dots, and a dot may as well be in a name (`not_oneEach_ambiguous`).
-/

namespace SchemaCodegen.Metadata

/-- There is one record for each table, column and index, and it has the names, the data and the
hash of this one. -/
structure OneEach (s : Snapshot) (m : Metadata) : Prop where
  tableKeys : m.tables.keys.Perm (s.tables.map Table.qualifiedName)
  columnKeys : m.columns.keys.Perm s.columnKeys
  indexKeys : m.indexes.keys.Perm s.indexKeys
  table : ∀ t ∈ s.tables, ∃ r, m.tables[t.qualifiedName]? = some r ∧
    r.names = t.names ∧ r.hash.current = Fingerprint.ofTable t
  column : ∀ t ∈ s.tables, ∀ c ∈ t.columns, ∃ r, m.columns[columnKey t c]? = some r ∧
    r.columnName = c.name ∧ r.Shows c
  index : ∀ t ∈ s.tables, ∀ i ∈ t.indexes, ∃ r, m.indexes[indexKey t i]? = some r ∧
    r.indexName = i.name ∧ r.Shows i

variable {fresh : RecordKey → Uuid} {now : Instant} {s : Snapshot} {m : Metadata}

theorem OneEach.hasDistinctKeys (h : OneEach s m) : s.HasDistinctKeys :=
  ⟨h.tableKeys.nodup_iff.1 Std.ExtTreeMap.nodup_keys,
    h.columnKeys.nodup_iff.1 Std.ExtTreeMap.nodup_keys,
    h.indexKeys.nodup_iff.1 Std.ExtTreeMap.nodup_keys⟩

/-- A first sync leaves records of one kind under the keys of the snapshot's parts. -/
theorem PartKind.Held.keys_sync_empty {α β : Type} {K : PartKind α β}
    {records : Metadata → Filed α} (h : K.Held fresh records) (hempty : records .empty = ∅)
    (hkeys : (K.keys s.tables).Nodup) :
    (records (Metadata.empty.sync fresh now s).1).keys.Perm (K.keys s.tables) := by
  refine Filed.keys_perm hkeys fun k => ⟨fun hk => ?_, fun hk => ?_⟩
  · by_contra hmissing
    rw [h.sync, Std.ExtTreeMap.getElem?_map, getElem?_syncAll_of_not_mem hmissing, hempty] at hk
    simp at hk
  · obtain ⟨t, ht, hk⟩ := List.mem_flatMap.1 hk
    obtain ⟨b, hb, rfl⟩ := List.mem_map.1 hk
    obtain ⟨_, r, hr, -⟩ := h.exists_getElem?_sync now .empty hkeys ht hb
    rw [hr]
    rfl

theorem keys_sync_empty_tables (hkeys : (s.tables.map Table.qualifiedName).Nodup) :
    (Metadata.empty.sync fresh now s).1.tables.keys.Perm (s.tables.map Table.qualifiedName) := by
  refine Filed.keys_perm hkeys fun k => ⟨fun hk => ?_, fun hk => ?_⟩
  · by_contra hmissing
    rw [getElem?_sync_tables_of_not_mem fresh now hmissing] at hk
    simp [Metadata.empty] at hk
  · obtain ⟨t, ht, rfl⟩ := List.mem_map.1 hk
    rw [getElem?_sync_tables_of_mem fresh now hkeys ht]
    rfl

/-- A first sync makes one record for each table, column and index exactly when their keys
differ. -/
theorem oneEach_sync_empty_iff (fresh : RecordKey → Uuid) (now : Instant) (s : Snapshot) :
    OneEach s (Metadata.empty.sync fresh now s).1 ↔ s.HasDistinctKeys := by
  refine ⟨OneEach.hasDistinctKeys, fun h => ?_⟩
  refine ⟨keys_sync_empty_tables h.tables, (columns_held fresh).keys_sync_empty rfl h.columns,
    (indexes_held fresh).keys_sync_empty rfl h.indexes, fun t ht => ?_, fun t ht c hc => ?_,
    fun t ht i hi => ?_⟩
  · refine ⟨_, getElem?_sync_tables_of_mem fresh now h.tables ht, ?_, current_syncedRecord _⟩
    simp [Metadata.empty, syncedRecord, TableRecord.create, TableRecord.names, Table.names]
  · obtain ⟨id, r, hr, hrecord⟩ :=
      (columns_held fresh).exists_getElem?_sync now .empty h.columns ht hc
    have hshows := shows_syncedColumn fresh t id c none
    refine ⟨r, hr, ?_⟩
    rcases hrecord with rfl | rfl
    · exact ⟨rfl, hshows⟩
    · exact ⟨rfl, { hshows with }⟩
  · obtain ⟨id, r, hr, hrecord⟩ :=
      (indexes_held fresh).exists_getElem?_sync now .empty h.indexes ht hi
    have hshows := shows_syncedIndex fresh t id i none
    refine ⟨r, hr, ?_⟩
    rcases hrecord with rfl | rfl
    · exact ⟨rfl, hshows⟩
    · exact ⟨rfl, { hshows with }⟩

/-! ### A snapshot whose tables share a key -/

def ambiguous : Snapshot :=
  ⟨"db", "server", "1", default, [⟨"b.c", "a", [], [], []⟩, ⟨"c", "a.b", [], [], []⟩], []⟩

/-- The names of the tables differ, so the snapshot is accepted, but both keys are `a.b.c`. -/
theorem not_oneEach_ambiguous : ambiguous.defect? = none ∧
    ∀ fresh now, ¬ OneEach ambiguous (Metadata.empty.sync fresh now ambiguous).1 := by
  refine ⟨by decide, fun _ _ h => ?_⟩
  exact absurd h.hasDistinctKeys.tables (by decide)

end SchemaCodegen.Metadata
