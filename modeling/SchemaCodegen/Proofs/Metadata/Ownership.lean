import SchemaCodegen.Proofs.Metadata.Settling

/-!
# Whose columns and indexes records are of

Tables have their own identities, and every column and index belongs to a table that is stored
(`Owned`). A sync keeps this as long as the identities that it is given are new (`Owned.sync`). So
what it switches off in passing are exactly the parts that the snapshot does not have: under the
key of a part it leaves the part's record (`PartKind.Held.getElem?_sync_of_mem`), and under all
other keys what was there, switched off (`PartKind.Held.getElem?_sync_of_not_mem`).
-/

namespace SchemaCodegen

namespace Snapshot

def columnKeys (s : Snapshot) : List String :=
  s.tables.flatMap fun t => t.columns.map (columnKey t)

def indexKeys (s : Snapshot) : List String :=
  s.tables.flatMap fun t => t.indexes.map (indexKey t)

/-- No two tables, columns or indexes are filed under one key. -/
structure HasDistinctKeys (s : Snapshot) : Prop where
  tables : (s.tables.map Table.qualifiedName).Nodup
  columns : s.columnKeys.Nodup
  indexes : s.indexKeys.Nodup

end Snapshot

namespace Metadata

/-- The identities of all records. -/
def ids (m : Metadata) : List Uuid :=
  m.tables.toList.map (·.2.id) ++ m.columns.toList.map (·.2.id) ++
    m.indexes.toList.map (·.2.id) ++ m.relationships.toList.map (·.2.id)

/-- The identities meant for the records of a snapshot differ and were never given out. -/
structure Fresh (m : Metadata) (fresh : RecordKey → Uuid) (s : Snapshot) : Prop where
  injective : ∀ {k k' : RecordKey}, k ∈ s.recordKeys → k' ∈ s.recordKeys → fresh k = fresh k' →
    k = k'
  unused : ∀ {k : RecordKey}, k ∈ s.recordKeys → fresh k ∉ m.ids

/-- No two tables have the same identity. -/
def IdsDiffer (tables : Filed TableRecord) : Prop :=
  ∀ ⦃k k' : String⦄ ⦃id : Uuid⦄, idOf? tables k = some id → idOf? tables k' = some id → k = k'

/-- Every record belongs to a stored table. -/
def PartKind.OwnedBy {α β : Type} (K : PartKind α β) (tables : Filed TableRecord)
    (records : Filed α) : Prop :=
  ∀ {k : String} {r : α}, records[k]? = some r → ∃ owner, idOf? tables owner = some (K.tableId r)

/-- Tables have their own identities, and columns and indexes belong to stored tables. -/
structure Owned (m : Metadata) : Prop where
  idsDiffer : IdsDiffer m.tables
  column : ∀ {k : String} {r : ColumnRecord}, m.columns[k]? = some r →
    ∃ owner, idOf? m.tables owner = some r.tableId
  index : ∀ {k : String} {r : IndexRecord}, m.indexes[k]? = some r →
    ∃ owner, idOf? m.tables owner = some r.tableId

theorem mem_recordKeys_of_table {s : Snapshot} {t : Table} (ht : t ∈ s.tables) :
    ⟨.table, t.qualifiedName⟩ ∈ s.recordKeys :=
  List.mem_append_left _ (List.mem_flatMap.2 ⟨t, ht, List.mem_cons_self⟩)

theorem mem_ids_of_idOf? {m : Metadata} {k : String} {id : Uuid}
    (h : idOf? m.tables k = some id) : id ∈ m.ids := by
  obtain ⟨r, hr, rfl⟩ := Option.map_eq_some_iff.1 h
  have hmem := Std.ExtTreeMap.mem_toList_iff_getElem?_eq_some.2 hr
  simp only [ids, List.mem_append]
  exact .inl (.inl (.inl (List.mem_map_of_mem hmem)))

section Sync

variable {fresh : RecordKey → Uuid} {now : Instant} {s : Snapshot} {m : Metadata}

/-- An identity under a key after a sync was there before, or it is the one meant for the table. -/
theorem of_idOf?_sync {k : String} {id : Uuid}
    (h : idOf? (m.sync fresh now s).1.tables k = some id) :
    idOf? m.tables k = some id ∨
      (⟨.table, k⟩ : RecordKey) ∈ s.recordKeys ∧ fresh ⟨.table, k⟩ = id := by
  rw [idOf?_sync, Option.or_eq_some_iff] at h
  rcases h with h | ⟨-, h⟩
  · exact .inl h
  · obtain ⟨t, ht, rfl⟩ := Option.map_eq_some_iff.1 h
    have hkey : t.qualifiedName = k := by simpa using List.find?_some ht
    subst hkey
    exact .inr ⟨mem_recordKeys_of_table (List.mem_of_find?_eq_some ht), rfl⟩

theorem IdsDiffer.sync (h : IdsDiffer m.tables) (hfresh : m.Fresh fresh s) :
    IdsDiffer (m.sync fresh now s).1.tables := by
  intro k k' id hk hk'
  rcases of_idOf?_sync hk with hold | ⟨hmem, hid⟩ <;>
    rcases of_idOf?_sync hk' with hold' | ⟨hmem', hid'⟩
  · exact h hold hold'
  · exact absurd (mem_ids_of_idOf? hold) (hid' ▸ hfresh.unused hmem')
  · exact absurd (mem_ids_of_idOf? hold') (hid ▸ hfresh.unused hmem)
  · exact congrArg RecordKey.key (hfresh.injective hmem hmem' (hid.trans hid'.symm))

/-- Different tables of a snapshot have different identities. -/
theorem nodup_ownerId (h : IdsDiffer (m.sync fresh now s).1.tables)
    (hkeys : (s.tables.map Table.qualifiedName).Nodup) :
    (s.tables.map (ownerId (m.sync fresh now s).1.tables)).Nodup := by
  rw [List.Nodup, List.pairwise_map] at hkeys ⊢
  refine hkeys.imp_of_mem fun {t t'} ht ht' hne hsame => hne ?_
  refine h (idOf?_sync_of_mem fresh now ht) ?_
  rw [hsame]
  exact idOf?_sync_of_mem fresh now ht'

namespace PartKind

variable {α β : Type} {K : PartKind α β} {records : Metadata → Filed α}

theorem Held.ownedBy_sync (h : K.Held fresh records) (howned : K.OwnedBy m.tables (records m)) :
    K.OwnedBy (m.sync fresh now s).1.tables (records (m.sync fresh now s).1) := by
  intro k r' hr'
  rw [h.sync, Std.ExtTreeMap.getElem?_map, Option.map_eq_some_iff] at hr'
  obtain ⟨r₁, hr₁, rfl⟩ := hr'
  rw [K.tableId_ite]
  rcases of_getElem?_syncAll hr₁ with hid | ⟨r, hr, hid⟩
  · obtain ⟨t, ht, hid⟩ := List.mem_map.1 hid
    exact ⟨t.qualifiedName, hid ▸ idOf?_sync_of_mem fresh now ht⟩
  · obtain ⟨owner, howner⟩ := howned hr
    refine ⟨owner, ?_⟩
    rw [idOf?_sync, howner, hid]
    rfl

/-- A part of the snapshot leaves the record that follows from what was found, as a part of its
table. -/
theorem Held.getElem?_sync_of_mem (h : K.Held fresh records)
    (hids : IdsDiffer (m.sync fresh now s).1.tables)
    (htables : (s.tables.map Table.qualifiedName).Nodup) (hkeys : (K.keys s.tables).Nodup)
    {t : Table} (ht : t ∈ s.tables) {b : β} (hb : b ∈ K.parts t) :
    (records (m.sync fresh now s).1)[K.key t b]? =
      some (K.record t (ownerId (m.sync fresh now s).1.tables t) b (records m)[K.key t b]?) := by
  rw [h.sync, Std.ExtTreeMap.getElem?_map]
  rcases getElem?_syncAll_of_mem (ownerId (m.sync fresh now s).1.tables) (records m) hkeys ht hb
    with hr | ⟨hids', -⟩
  · rw [hr, Option.map_some, if_neg]
    rw [K.tableId_record, List.contains_iff_mem, mem_inactiveIds]
    rintro ⟨k, r, hr, hoff, hid⟩
    have hk : k = t.qualifiedName := by
      refine hids ?_ (idOf?_sync_of_mem fresh now ht)
      rw [idOf?, hr, Option.map_some, hid]
    subst hk
    rw [getElem?_sync_tables_of_mem fresh now htables ht] at hr
    cases hr
    rw [isActive_syncedRecord] at hoff
    cases hoff
  · exact absurd (nodup_ownerId hids htables) hids'

/-- All other records are switched off. -/
theorem Held.getElem?_sync_of_not_mem (h : K.Held fresh records)
    (howned : K.OwnedBy m.tables (records m)) {k : String} (hk : k ∉ K.keys s.tables) :
    (records (m.sync fresh now s).1)[k]? = (records m)[k]?.map K.switchOff := by
  rw [h.sync, Std.ExtTreeMap.getElem?_map, getElem?_syncAll_of_not_mem hk, Option.map_map]
  cases hr : (records m)[k]? with
  | none => rfl
  | some r =>
    rw [Option.map_some, Option.map_some, Function.comp_apply, K.tableId_ite]
    obtain ⟨owner, howner⟩ := howned hr
    by_cases hseen : owner ∈ s.tables.map Table.qualifiedName
    · -- the owner was synced, and the record was no part of it
      obtain ⟨t, ht, rfl⟩ := List.mem_map.1 hseen
      have hid := idOf?_sync_of_mem fresh now (m := m) ht
      rw [idOf?_sync, howner, Option.some_or, Option.some_inj] at hid
      have hmem := List.mem_map_of_mem (f := ownerId (m.sync fresh now s).1.tables) ht
      rw [← hid] at hmem
      rw [if_pos hmem, K.switchOff_switchOff, ite_self]
    · -- the owner is gone, so it was switched off
      obtain ⟨owned, hr', hid⟩ := Option.map_eq_some_iff.1 howner
      have hoff := getElem?_sync_tables_of_not_mem fresh now (m := m) hseen
      rw [hr', Option.map_some] at hoff
      have hinactive : K.tableId r ∈ inactiveIds (m.sync fresh now s).1.tables := by
        refine mem_inactiveIds.2 ⟨owner, _, hoff, ?_, ?_⟩
        · split
          · rfl
          · next hinactive => exact Bool.not_eq_true _ ▸ hinactive
        · split <;> exact hid
      rw [if_pos (List.contains_iff_mem.2 hinactive)]
      split
      · rw [K.switchOff_switchOff]
      · rfl

end PartKind

theorem Owned.empty : Owned .empty := by
  refine ⟨fun k k' id h => ?_, fun h => ?_, fun h => ?_⟩ <;> simp [idOf?, Metadata.empty] at h

theorem Owned.sync (h : Owned m) (hfresh : m.Fresh fresh s) : Owned (m.sync fresh now s).1 :=
  ⟨h.idsDiffer.sync hfresh, (columns_held fresh).ownedBy_sync h.column,
    (indexes_held fresh).ownedBy_sync h.index⟩

end Sync

end Metadata

end SchemaCodegen
