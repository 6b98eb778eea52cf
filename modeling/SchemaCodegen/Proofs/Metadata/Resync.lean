import SchemaCodegen.Proofs.Metadata.Mirror
import SchemaCodegen.Proofs.Metadata.Reporting

/-!
# Syncing a snapshot again

After a sync the metadata is in line with the snapshot (`inLine_sync`), whatever it was before and
whatever identities its tables have, and marking tables as generated leaves it so. To sync the same
snapshot once more then changes nothing but the times at which active tables were last synced, and
reports no table (`InLine.sync_eq_touch`, `InLine.newTables_sync`, `InLine.modifiedTables_sync`) and
no column (`InLine.columnsChanged_sync`). So of two syncs in a row the second one is idle
(`sync_again`).
-/

namespace SchemaCodegen.Metadata

/-! ## Parts of tables -/

/-- The identities and states of the tables are the same, whatever else differs. -/
def SameOwners (tables tables' : Filed TableRecord) : Prop :=
  ∀ k : String, tables'[k]?.map (fun r => (r.id, r.isActive)) =
    tables[k]?.map fun r => (r.id, r.isActive)

namespace SameOwners

variable {tables tables' : Filed TableRecord}

theorem ownerId_eq (h : SameOwners tables tables') : ownerId tables' = ownerId tables := by
  funext t
  have hid := congrArg (Option.map Prod.fst) (h t.qualifiedName)
  rw [Option.map_map, Option.map_map] at hid
  exact congrArg (Option.getD · default) hid

theorem mem_inactiveIds_iff (h : SameOwners tables tables') {id : Uuid} :
    id ∈ inactiveIds tables' ↔ id ∈ inactiveIds tables := by
  have hview : ∀ tables : Filed TableRecord, id ∈ inactiveIds tables ↔
      ∃ k : String, tables[k]?.map (fun r => (r.id, r.isActive)) = some (id, false) := by
    intro tables
    rw [mem_inactiveIds]
    refine exists_congr fun k => ?_
    rw [Option.map_eq_some_iff]
    refine exists_congr fun r => and_congr_right fun _ => ?_
    rw [Prod.mk.injEq, and_comm]
  rw [hview, hview]
  exact exists_congr fun k => by rw [h k]

end SameOwners

namespace PartKind

variable {α β : Type} {K : PartKind α β}

theorem record_ite (isOff : Prop) [Decidable isOff] (t : Table) (id : Uuid) (b : β) (r : α) :
    K.record t id b (some (if isOff then K.switchOff r else r)) = K.record t id b (some r) := by
  split
  · exact K.record_switchOff t id b r
  · rfl

/-- Refreshing the parts of the tables again would change nothing, and what is switched off in
passing is off. A part is off if a table further on, or an inactive one, has the identity of its
table. -/
structure InLine (K : PartKind α β) (tables : Filed TableRecord) (ts : List Table)
    (records : Filed α) : Prop where
  of_mem : ∀ {before after : List Table} {t : Table} {b : β}, ts = before ++ t :: after →
    b ∈ K.parts t → ∃ r, K.record t (ownerId tables t) b (some r) = r ∧
      records[K.key t b]? = some
        (if ownerId tables t ∈ after.map (ownerId tables) ∨ ownerId tables t ∈ inactiveIds tables
          then K.switchOff r else r)
  of_not_mem : ∀ {k : String} {r : α}, k ∉ K.keys ts → records[k]? = some r →
    K.tableId r ∈ ts.map (ownerId tables) ∨ K.tableId r ∈ inactiveIds tables → K.switchOff r = r

theorem InLine.of_sameOwners {tables tables' : Filed TableRecord} {ts : List Table}
    {records : Filed α} (h : K.InLine tables ts records) (hsame : SameOwners tables tables') :
    K.InLine tables' ts records := by
  refine ⟨fun {before after t b} hts hb => ?_, fun {k r} hk hr => ?_⟩
  · simpa only [hsame.ownerId_eq, hsame.mem_inactiveIds_iff] using h.of_mem hts hb
  · simpa only [hsame.ownerId_eq, hsame.mem_inactiveIds_iff] using h.of_not_mem hk hr

namespace Held

variable {fresh : RecordKey → Uuid} {now : Instant} {records : Metadata → Filed α} {s : Snapshot}
  {m : Metadata} {k : String}

/-- What a sync leaves for a part. -/
theorem getElem?_sync_append (h : K.Held fresh records) (now : Instant) (m : Metadata)
    (hkeys : (K.keys s.tables).Nodup) {before after : List Table} {t : Table}
    (hs : s.tables = before ++ t :: after) {b : β} (hb : b ∈ K.parts t) :
    (records (m.sync fresh now s).1)[K.key t b]? =
      let tables := (m.sync fresh now s).1.tables
      let r := K.record t (ownerId tables t) b (records m)[K.key t b]?
      some (if ownerId tables t ∈ after.map (ownerId tables) ∨
        ownerId tables t ∈ inactiveIds tables then K.switchOff r else r) := by
  rw [h.sync, Std.ExtTreeMap.getElem?_map]
  generalize (m.sync fresh now s).1.tables = tables
  rw [hs] at hkeys ⊢
  rw [getElem?_syncAll_append (ownerId tables) (records m) hkeys hb, Option.map_some]
  simp only [K.tableId_ite, K.tableId_record, List.contains_iff_mem, Option.some_inj]
  by_cases hgone : ownerId tables t ∈ inactiveIds tables <;>
    by_cases hlater : ownerId tables t ∈ after.map (ownerId tables) <;>
    simp [hgone, hlater, K.switchOff_switchOff]

/-- What a sync leaves of all other records. -/
theorem getElem?_sync_other (h : K.Held fresh records) (now : Instant) (m : Metadata)
    (hk : k ∉ K.keys s.tables) :
    (records (m.sync fresh now s).1)[k]? =
      let tables := (m.sync fresh now s).1.tables
      (records m)[k]?.map fun r =>
        if K.tableId r ∈ s.tables.map (ownerId tables) ∨ K.tableId r ∈ inactiveIds tables then
          K.switchOff r
        else r := by
  rw [h.sync, Std.ExtTreeMap.getElem?_map, getElem?_syncAll_of_not_mem hk, Option.map_map]
  generalize (m.sync fresh now s).1.tables = tables
  refine congrArg (fun f => (records m)[k]?.map f) (funext fun r => ?_)
  simp only [Function.comp_apply, K.tableId_ite, List.contains_iff_mem]
  by_cases hgone : K.tableId r ∈ inactiveIds tables <;>
    by_cases hseen : K.tableId r ∈ s.tables.map (ownerId tables) <;>
    simp only [hgone, hseen, or_self, or_true, true_or, if_true, if_false, K.switchOff_switchOff]

theorem inLine_sync (h : K.Held fresh records) (now : Instant) (m : Metadata)
    (hkeys : (K.keys s.tables).Nodup) :
    K.InLine (m.sync fresh now s).1.tables s.tables (records (m.sync fresh now s).1) := by
  refine ⟨fun {before after t b} hs hb => ?_, fun {k r'} hk hr' hoff => ?_⟩
  · exact ⟨_, K.record_record t _ b _, h.getElem?_sync_append now m hkeys hs hb⟩
  · rw [h.getElem?_sync_other now m hk, Option.map_eq_some_iff] at hr'
    obtain ⟨r, -, rfl⟩ := hr'
    rw [K.tableId_ite] at hoff
    rw [if_pos hoff, K.switchOff_switchOff]

/-- A sync changes no parts that are in line with the tables as it leaves them. -/
theorem sync_eq_of_inLine (h : K.Held fresh records) (hkeys : (K.keys s.tables).Nodup)
    (hline : K.InLine (m.sync fresh now s).1.tables s.tables (records m)) :
    records (m.sync fresh now s).1 = records m := by
  refine Std.ExtTreeMap.ext_getElem? fun k => ?_
  by_cases hk : k ∈ K.keys s.tables
  · obtain ⟨t, ht, hk⟩ := List.mem_flatMap.1 hk
    obtain ⟨b, hb, rfl⟩ := List.mem_map.1 hk
    obtain ⟨before, after, hs⟩ := List.append_of_mem ht
    obtain ⟨r, hsame, hr⟩ := hline.of_mem hs hb
    rw [h.getElem?_sync_append now m hkeys hs hb, hr]
    simp only [K.record_ite, hsame]
  · rw [h.getElem?_sync_other now m hk]
    cases hr : (records m)[k]? with
    | none => rfl
    | some r =>
      rw [Option.map_some, Option.some_inj]
      split
      · next hoff => exact hline.of_not_mem hk hr hoff
      · rfl

end Held

end PartKind

/-! ## All records -/

/-- The metadata is as a sync of the snapshot leaves it. -/
structure InLine (s : Snapshot) (m : Metadata) : Prop where
  table : ∀ t ∈ s.tables, ∃ r, m.tables[t.qualifiedName]? = some r ∧ r.isActive = true ∧
    r.hash.current = Fingerprint.ofTable t
  otherTable : ∀ {k : String} {r : TableRecord}, k ∉ s.tables.map Table.qualifiedName →
    m.tables[k]? = some r → r.isActive = false
  columns : ∀ fresh, (columnKind fresh).InLine m.tables s.tables m.columns
  indexes : ∀ fresh, (indexKind fresh).InLine m.tables s.tables m.indexes
  relationship : ∀ r ∈ s.relationships, ∃ rec, m.relationships[r.key]? = some rec ∧
    rec.refresh (Fingerprint.ofRelationship r) r = rec
  otherRelationship : ∀ {k : String} {rec : RelationshipRecord},
    k ∉ s.relationships.map Relationship.key → m.relationships[k]? = some rec →
      rec.isActive = false

/-- The metadata with another time at which its active tables were last synced. -/
def touch (now : Instant) (m : Metadata) : Metadata :=
  { m with
    tables := m.tables.map fun _ r => if r.isActive then { r with lastSynced := now } else r }

theorem getElem?_touch (now : Instant) (m : Metadata) (k : String) :
    (m.touch now).tables[k]? =
      m.tables[k]?.map fun r => if r.isActive then { r with lastSynced := now } else r :=
  Std.ExtTreeMap.getElem?_map

theorem sameOwners_touch (now : Instant) (m : Metadata) :
    SameOwners m.tables (m.touch now).tables := by
  refine Filed.map_getElem?_map fun _ r => ?_
  split <;> rfl

variable {fresh : RecordKey → Uuid} {now : Instant} {s : Snapshot} {m m' : Metadata}

theorem refresh_syncedRelationship (fresh : RecordKey → Uuid) (r : Relationship)
    (found? : Option RelationshipRecord) :
    (syncedRelationship fresh r found?).refresh (Fingerprint.ofRelationship r) r =
      syncedRelationship fresh r found? := by
  cases found? with
  | none =>
    simp only [syncedRelationship, RelationshipRecord.refresh, RelationshipRecord.create,
      HashPair.rotate_first]
  | some rec => simp only [syncedRelationship, RelationshipRecord.refresh, HashPair.rotate_rotate]

/-- A sync brings any metadata in line with the snapshot. -/
theorem inLine_sync (fresh : RecordKey → Uuid) (now : Instant) (m : Metadata)
    (usable : s.defect? = none) (hkeys : s.HasDistinctKeys) :
    InLine s (m.sync fresh now s).1 := by
  have hcolumns := (columns_held fresh).inLine_sync now m hkeys.columns
  have hindexes := (indexes_held fresh).inLine_sync now m hkeys.indexes
  have hrelationships := Snapshot.nodup_relationshipKeys usable
  refine
    { table := fun t ht => ?table
      otherTable := fun {k r} hk hr => ?otherTable
      columns := fun fresh' => ⟨hcolumns.of_mem, hcolumns.of_not_mem⟩
      indexes := fun fresh' => ⟨hindexes.of_mem, hindexes.of_not_mem⟩
      relationship := fun r hr => ?relationship
      otherRelationship := fun {k rec} hk hrec => ?otherRelationship }
  case table =>
    exact ⟨_, getElem?_sync_tables_of_mem fresh now hkeys.tables ht, isActive_syncedRecord _,
      current_syncedRecord _⟩
  case otherTable =>
    rw [getElem?_sync_tables_of_not_mem fresh now hk, Option.map_eq_some_iff] at hr
    obtain ⟨r, -, rfl⟩ := hr
    split
    · rfl
    · next hoff => exact Bool.not_eq_true _ ▸ hoff
  case relationship =>
    exact ⟨_, getElem?_sync_relationships_of_mem hrelationships hr,
      refresh_syncedRelationship fresh r _⟩
  case otherRelationship =>
    rw [getElem?_sync_relationships_of_not_mem hk, Option.map_eq_some_iff] at hrec
    obtain ⟨rec, -, rfl⟩ := hrec
    rfl

namespace InLine

/-- Stamping tables leaves the metadata in line. -/
theorem markAllGenerated (h : InLine s m) {keys : List String} {time : Instant}
    (hmark : m.markAllGenerated keys time = .ok m') : InLine s m' := by
  have hmarks := Marked.of_markAllGenerated hmark
  have howners : SameOwners m.tables m'.tables := hmarks.map_getElem?_tables _ fun _ => rfl
  refine
    { table := fun t ht => ?table
      otherTable := fun {k r} hk hr => ?otherTable
      columns := fun fresh => hmarks.columns ▸ (h.columns fresh).of_sameOwners howners
      indexes := fun fresh => hmarks.indexes ▸ (h.indexes fresh).of_sameOwners howners
      relationship := hmarks.relationships ▸ h.relationship
      otherRelationship := hmarks.relationships ▸ h.otherRelationship }
  case table =>
    obtain ⟨r, hr, hactive, hcurrent⟩ := h.table t ht
    have hsame := hmarks.map_getElem?_tables (fun r => (r.isActive, r.hash)) (fun _ => rfl)
      t.qualifiedName
    rw [hr, Option.map_some, Option.map_eq_some_iff] at hsame
    obtain ⟨r', hr', hsame⟩ := hsame
    obtain ⟨hactive', hhash⟩ := Prod.mk.inj hsame
    exact ⟨r', hr', hactive'.trans hactive, hhash ▸ hcurrent⟩
  case otherTable =>
    have hsame := hmarks.map_getElem?_tables TableRecord.isActive (fun _ => rfl) k
    rw [hr, Option.map_some, eq_comm, Option.map_eq_some_iff] at hsame
    obtain ⟨r₀, hr₀, hsame⟩ := hsame
    rw [← hsame]
    exact h.otherTable hk hr₀

theorem getElem?_sync_tables (h : InLine s m) (fresh : RecordKey → Uuid) (now : Instant)
    (hkeys : (s.tables.map Table.qualifiedName).Nodup) (k : String) :
    (m.sync fresh now s).1.tables[k]? = (m.touch now).tables[k]? := by
  rw [getElem?_touch]
  by_cases hk : k ∈ s.tables.map Table.qualifiedName
  · obtain ⟨t, ht, rfl⟩ := List.mem_map.1 hk
    obtain ⟨r, hr, hactive, hcurrent⟩ := h.table t ht
    rw [getElem?_sync_tables_of_mem fresh now hkeys ht, hr, Option.map_some, if_pos hactive,
      syncedRecord, TableRecord.refresh, HashPair.rotate_eq_self hcurrent, ← hactive]
  · rw [getElem?_sync_tables_of_not_mem fresh now hk]
    cases hr : m.tables[k]? with
    | none => rfl
    | some r =>
      have hoff := h.otherTable hk hr
      rw [Option.map_some, Option.map_some, if_neg (by simp [hoff]), if_neg (by simp [hoff])]

/-- Syncing the snapshot again changes nothing but the times of the last sync. -/
theorem sync_eq_touch (h : InLine s m) (fresh : RecordKey → Uuid) (now : Instant)
    (usable : s.defect? = none) (hkeys : s.HasDistinctKeys) :
    (m.sync fresh now s).1 = m.touch now := by
  have htables : (m.sync fresh now s).1.tables = (m.touch now).tables :=
    Std.ExtTreeMap.ext_getElem? (h.getElem?_sync_tables fresh now hkeys.tables)
  have howners : SameOwners m.tables (m.sync fresh now s).1.tables :=
    htables ▸ sameOwners_touch now m
  have hrelationships := Snapshot.nodup_relationshipKeys usable
  refine Metadata.ext htables ?columns ?indexes ?relationships
  case columns =>
    exact (columns_held fresh).sync_eq_of_inLine hkeys.columns
      ((h.columns fresh).of_sameOwners howners)
  case indexes =>
    exact (indexes_held fresh).sync_eq_of_inLine hkeys.indexes
      ((h.indexes fresh).of_sameOwners howners)
  case relationships =>
    refine Std.ExtTreeMap.ext_getElem? fun k => ?_
    change _ = m.relationships[k]?
    by_cases hk : k ∈ s.relationships.map Relationship.key
    · obtain ⟨r, hr, rfl⟩ := List.mem_map.1 hk
      obtain ⟨rec, hrec, hsame⟩ := h.relationship r hr
      rw [getElem?_sync_relationships_of_mem hrelationships hr, hrec, syncedRelationship, hsame]
    · rw [getElem?_sync_relationships_of_not_mem hk]
      cases hrec : m.relationships[k]? with
      | none => rfl
      | some rec => rw [Option.map_some, ← h.otherRelationship hk hrec]

theorem newsOf_eq (h : InLine s m) {t : Table} (ht : t ∈ s.tables) :
    newsOf m.tables t = .unchanged := by
  obtain ⟨r, hr, -, hcurrent⟩ := h.table t ht
  rw [newsOf, hr]
  exact if_pos hcurrent

/-- Syncing the snapshot again finds no new table. -/
theorem newTables_sync (h : InLine s m) (fresh : RecordKey → Uuid) (now : Instant)
    (hkeys : (s.tables.map Table.qualifiedName).Nodup) :
    (m.sync fresh now s).2.newTables = [] := by
  rw [newTables_eq hkeys, List.map_eq_nil_iff, List.filter_eq_nil_iff]
  intro t ht
  simp [h.newsOf_eq ht]

/-- Syncing the snapshot again finds no table modified. -/
theorem modifiedTables_sync (h : InLine s m) (fresh : RecordKey → Uuid) (now : Instant)
    (hkeys : (s.tables.map Table.qualifiedName).Nodup) :
    (m.sync fresh now s).2.modifiedTables = [] := by
  rw [modifiedTables_eq hkeys, List.map_eq_nil_iff, List.filter_eq_nil_iff]
  intro t ht
  simp [h.newsOf_eq ht]

/-- Syncing the snapshot again finds no table gone. -/
theorem deactivatedTables_sync (h : InLine s m) (fresh : RecordKey → Uuid) (now : Instant) :
    (m.sync fresh now s).2.deactivatedTables = [] := by
  refine List.eq_nil_iff_forall_not_mem.2 fun name hname => ?_
  obtain ⟨key, r, hr, hactive, hkey, -⟩ := mem_deactivatedTables.1 hname
  exact absurd hactive (by simp [h.otherTable hkey hr])

theorem isColumnNews_eq_false (h : InLine s m) {t : Table} (ht : t ∈ s.tables) {c : Column}
    (hc : c ∈ t.columns) : isColumnNews m.columns t c = false := by
  obtain ⟨before, after, hs⟩ := List.append_of_mem ht
  obtain ⟨r, hsame, hr⟩ := (h.columns fun _ => default).of_mem hs hc
  have hcurrent : r.hash.current = Fingerprint.ofColumn c := by
    rw [← hsame]
    exact r.hash.current_rotate _
  have hhash : m.columns[columnKey t c]?.map ColumnRecord.hash = some r.hash := by
    rw [show m.columns[columnKey t c]? = _ from hr, Option.map_some]
    split <;> rfl
  rw [isColumnNews, hhash, Option.all_some, HashPair.rotates_eq_false_iff, hcurrent]

/-- Syncing the snapshot again counts no column as changed. -/
theorem columnsChanged_sync (h : InLine s m) (fresh : RecordKey → Uuid) (now : Instant)
    (hkeys : s.columnKeys.Nodup) : (m.sync fresh now s).2.columnsChanged = 0 := by
  rw [columnsChanged_eq hkeys, List.countP_eq_zero]
  rintro e he
  obtain ⟨t, ht, he⟩ := List.mem_flatMap.1 he
  obtain ⟨c, hc, rfl⟩ := List.mem_map.1 he
  simp [h.isColumnNews_eq_false ht hc]

/-- What syncing the snapshot again reports. -/
theorem snd_sync (h : InLine s m) (fresh : RecordKey → Uuid) (now : Instant)
    (hkeys : s.HasDistinctKeys) : (m.sync fresh now s).2 =
      { tablesChanged := 0
        tablesTotal := s.tables.length
        newTables := []
        modifiedTables := []
        deactivatedTables := []
        columnsChanged := 0
        syncedAt := now } := by
  have hnew := h.newTables_sync fresh now hkeys.tables
  have hmodified := h.modifiedTables_sync fresh now hkeys.tables
  have hchanged : (m.sync fresh now s).2.tablesChanged = 0 := by
    change (m.sync fresh now s).2.newTables.length +
      (m.sync fresh now s).2.modifiedTables.length = 0
    rw [hnew, hmodified]
    rfl
  exact SyncResult.ext hchanged rfl hnew hmodified (h.deactivatedTables_sync fresh now)
    (h.columnsChanged_sync fresh now hkeys.columns) rfl

end InLine

/-- Whatever the metadata was, of two syncs of one snapshot the second one finds nothing to report
and leaves all as it is but the times at which active tables were last synced. -/
theorem sync_again (fresh fresh' : RecordKey → Uuid) (now now' : Instant) (m : Metadata)
    (usable : s.defect? = none) (hkeys : s.HasDistinctKeys) :
    (m.sync fresh now s).1.sync fresh' now' s = ((m.sync fresh now s).1.touch now',
      { tablesChanged := 0
        tablesTotal := s.tables.length
        newTables := []
        modifiedTables := []
        deactivatedTables := []
        columnsChanged := 0
        syncedAt := now' }) := by
  have hline := inLine_sync fresh now m usable hkeys
  exact Prod.ext (hline.sync_eq_touch fresh' now' usable hkeys) (hline.snd_sync fresh' now' hkeys)

/-- Also when a column has moved between tables, the second sync has nothing left to do. -/
theorem Moved.second_again : after.defect? = none ∧ after.HasDistinctKeys ∧
    second.sync (idsFrom 200) ⟨1, 0⟩ after = (second.touch ⟨1, 0⟩,
      { tablesChanged := 0
        tablesTotal := 2
        newTables := []
        modifiedTables := []
        deactivatedTables := []
        columnsChanged := 0
        syncedAt := ⟨1, 0⟩ }) :=
  ⟨by decide, hasDistinctKeys_after,
    Metadata.sync_again (idsFrom 100) (idsFrom 200) default ⟨1, 0⟩ first (by decide)
      hasDistinctKeys_after⟩

end SchemaCodegen.Metadata
