import SchemaCodegen.Proofs.Metadata.Parts

/-!
# What a sync leaves under a key

While a sync goes from table to table, records are switched off and on again. What is left in the
end can be said key by key: the records of what the snapshot has follow from it and from what was
found, and all others are switched off (`getElem?_sync_tables_of_mem`,
`getElem?_sync_tables_of_not_mem` and their companions for relationships). Columns and indexes are
synced one table at a time, and then once more to switch off those of tables that are gone
(`PartKind.Held.sync`).
-/

namespace SchemaCodegen.Metadata

section Tables

variable {fresh : RecordKey → Uuid} {now : Instant} {s : Snapshot} {m : Metadata}
  {tables : Filed TableRecord} {ts : List Table} {t : Table} {k : String}

theorem foldl_step_tables (ts : List Table) (p : Progress) :
    (ts.foldl (Progress.step fresh now) p).metadata.tables =
      ts.foldl (Filed.file Table.qualifiedName (syncedRecord fresh now)) p.metadata.tables := by
  induction ts generalizing p with
  | nil => rfl
  | cons t ts ih =>
    rw [List.foldl_cons, List.foldl_cons, ih, step_tables, fst_syncTableRecord]
    rfl

/-- A table of the snapshot leaves its record, active and refreshed. -/
theorem getElem?_sync_tables_of_mem (fresh : RecordKey → Uuid) (now : Instant)
    (hkeys : (s.tables.map Table.qualifiedName).Nodup) (ht : t ∈ s.tables) :
    (m.sync fresh now s).1.tables[t.qualifiedName]? =
      some (syncedRecord fresh now t m.tables[t.qualifiedName]?) := by
  have hseen : (s.tables.map Table.qualifiedName).contains t.qualifiedName = true :=
    List.contains_iff_mem.2 (List.mem_map_of_mem ht)
  rw [sync_tables, retireTables, Std.ExtTreeMap.getElem?_map, foldl_step_tables,
    Filed.getElem?_foldl_file_of_mem hkeys ht, Option.map_some, isGone, hseen]
  simp

/-- All other tables are switched off. -/
theorem getElem?_sync_tables_of_not_mem (fresh : RecordKey → Uuid) (now : Instant)
    (hk : k ∉ s.tables.map Table.qualifiedName) :
    (m.sync fresh now s).1.tables[k]? = m.tables[k]?.map fun r =>
      if r.isActive then { r with isActive := false, lastSynced := now } else r := by
  have hseen : (s.tables.map Table.qualifiedName).contains k = false := by simpa using hk
  rw [sync_tables, retireTables, Std.ExtTreeMap.getElem?_map, foldl_step_tables,
    Filed.getElem?_foldl_file_of_not_mem hk]
  simp only [isGone, hseen, Bool.not_false, Bool.and_true]

/-- The identity that is stored under a table's key. -/
def idOf? (tables : Filed TableRecord) (key : String) : Option Uuid :=
  tables[key]?.map TableRecord.id

/-- The identity of a table that is stored. -/
def ownerId (tables : Filed TableRecord) (t : Table) : Uuid :=
  (idOf? tables t.qualifiedName).getD default

theorem idOf?_foldl_file (fresh : RecordKey → Uuid) (now : Instant)
    (tables : Filed TableRecord) (ts : List Table) (k : String) :
    idOf? (ts.foldl (Filed.file Table.qualifiedName (syncedRecord fresh now)) tables) k =
      (idOf? tables k).or
        ((ts.find? (·.qualifiedName == k)).map fun t => fresh ⟨.table, t.qualifiedName⟩) :=
  Filed.map_getElem?_foldl_file (fun _ => rfl) (fun _ _ => rfl) ts k

/-- What a table's record shows, follows from the tables with its key and from what was shown. -/
theorem map_getElem?_sync_tables_eq {ν : Type} {view : TableRecord → ν}
    (next : Table → Option ν → ν)
    (hnext : ∀ t found?, view (syncedRecord fresh now t found?) = next t (found?.map view))
    (hoff : ∀ r : TableRecord, view { r with isActive := false, lastSynced := now } = view r)
    (k : String) : (m.sync fresh now s).1.tables[k]?.map view =
      Filed.shownAfter next (s.tables.filter (·.qualifiedName == k)) (m.tables[k]?.map view) := by
  rw [← Filed.map_getElem?_foldl_file_eq next hnext, sync_tables, foldl_step_tables]
  refine Filed.map_getElem?_map (fun k r => ?_) k
  split
  · exact hoff r
  · rfl

/-- What a sync never changes of a table's record, stays; what new records have of it, comes from
the first table with their key. -/
theorem map_getElem?_sync_tables {ν : Type} {view : TableRecord → ν} {tableView : Table → ν}
    (hnew : ∀ t, view (syncedRecord fresh now t none) = tableView t)
    (hkept : ∀ t r, view (syncedRecord fresh now t (some r)) = view r)
    (hoff : ∀ r : TableRecord, view { r with isActive := false, lastSynced := now } = view r)
    (k : String) : (m.sync fresh now s).1.tables[k]?.map view =
      (m.tables[k]?.map view).or ((s.tables.find? (·.qualifiedName == k)).map tableView) := by
  rw [map_getElem?_sync_tables_eq (fun t shown? => shown?.getD (tableView t)) _ hoff,
    Filed.shownAfter_getD, List.head?_filter]
  intro t found?
  cases found? with
  | none => exact hnew t
  | some r => exact hkept t r

/-- Tables keep the identities that they had; new ones get those meant for them. -/
theorem idOf?_sync (k : String) : idOf? (m.sync fresh now s).1.tables k =
    (idOf? m.tables k).or
      ((s.tables.find? (·.qualifiedName == k)).map fun t => fresh ⟨.table, t.qualifiedName⟩) :=
  map_getElem?_sync_tables (fun _ => rfl) (fun _ _ => rfl) (fun _ => rfl) k

theorem idOf?_syncTableRecord :
    idOf? (syncTableRecord fresh now tables t).1 t.qualifiedName =
      some (syncTableRecord fresh now tables t).2.1 := by
  rw [idOf?, getElem?_syncTableRecord, if_pos rfl]
  simp only [syncTableRecord]
  cases tables[t.qualifiedName]? <;> rfl

theorem idOf?_sync_of_mem (fresh : RecordKey → Uuid) (now : Instant) (ht : t ∈ s.tables) :
    idOf? (m.sync fresh now s).1.tables t.qualifiedName =
      some (ownerId (m.sync fresh now s).1.tables t) := by
  have hsome : (idOf? (m.sync fresh now s).1.tables t.qualifiedName).isSome := by
    rw [idOf?_sync, Option.isSome_or, Option.isSome_map, Bool.or_eq_true, List.find?_isSome]
    exact .inr ⟨t, ht, beq_self_eq_true _⟩
  obtain ⟨id, hid⟩ := Option.isSome_iff_exists.1 hsome
  rw [ownerId, hid]
  rfl

theorem mem_inactiveIds {id : Uuid} : id ∈ inactiveIds tables ↔
    ∃ (k : String) (r : TableRecord), tables[k]? = some r ∧ r.isActive = false ∧ r.id = id := by
  rw [inactiveIds, List.mem_filterMap]
  constructor
  · rintro ⟨⟨k, r⟩, hr, hid⟩
    refine ⟨k, r, Std.ExtTreeMap.mem_toList_iff_getElem?_eq_some.1 hr, ?_⟩
    dsimp only at hid
    split at hid
    · cases hid
    · next hoff =>
      cases hid
      exact ⟨by simpa using hoff, rfl⟩
  · rintro ⟨k, r, hr, hoff, rfl⟩
    exact ⟨(k, r), Std.ExtTreeMap.mem_toList_iff_getElem?_eq_some.2 hr, by simp [hoff]⟩

end Tables

/-! ## Relationships -/

section Relationships

variable {fresh : RecordKey → Uuid} {now : Instant} {s : Snapshot} {m : Metadata}
  {r : Relationship} {k : String}

/-- The record that a sync leaves for a relationship where it found `found?`. -/
def syncedRelationship (fresh : RecordKey → Uuid) (r : Relationship)
    (found? : Option RelationshipRecord) : RelationshipRecord :=
  match found? with
  | some rec => rec.refresh (Fingerprint.ofRelationship r) r
  | none => .create (fresh ⟨.relationship, r.key⟩) (Fingerprint.ofRelationship r) r

theorem syncRelationship_eq (fresh : RecordKey → Uuid) :
    syncRelationship fresh = Filed.file Relationship.key (syncedRelationship fresh) := by
  funext records r
  simp only [syncRelationship, Filed.file]
  split
  · next rec hrec => rw [hrec]; rfl
  · next hrec => rw [hrec]; rfl

theorem foldl_step_relationships (fresh : RecordKey → Uuid) (now : Instant) (ts : List Table)
    (p : Progress) :
    (ts.foldl (Progress.step fresh now) p).metadata.relationships = p.metadata.relationships := by
  induction ts generalizing p with
  | nil => rfl
  | cons t ts ih => rw [List.foldl_cons, ih]; rfl

theorem sync_relationships : (m.sync fresh now s).1.relationships =
    (s.relationships.foldl (Filed.file Relationship.key (syncedRelationship fresh))
      m.relationships).map fun key r =>
        if (s.relationships.map Relationship.key).contains key then r
        else { r with isActive := false } := by
  rw [← syncRelationship_eq,
    ← foldl_step_relationships fresh now s.tables ⟨m, [], [], 0⟩]
  rfl

/-- What a relationship's record shows, follows from the relationships with its key and from what
was shown. -/
theorem map_getElem?_sync_relationships_eq {ν : Type} {view : RelationshipRecord → ν}
    (next : Relationship → Option ν → ν)
    (hnext : ∀ r found?, view (syncedRelationship fresh r found?) = next r (found?.map view))
    (hoff : ∀ r : RelationshipRecord, view { r with isActive := false } = view r) (k : String) :
    (m.sync fresh now s).1.relationships[k]?.map view =
      Filed.shownAfter next (s.relationships.filter (·.key == k))
        (m.relationships[k]?.map view) := by
  rw [← Filed.map_getElem?_foldl_file_eq next hnext, sync_relationships]
  refine Filed.map_getElem?_map (fun k r => ?_) k
  split
  · rfl
  · exact hoff r

theorem map_getElem?_sync_relationships {ν : Type} {view : RelationshipRecord → ν}
    {relationshipView : Relationship → ν}
    (hnew : ∀ r, view (syncedRelationship fresh r none) = relationshipView r)
    (hkept : ∀ r rec, view (syncedRelationship fresh r (some rec)) = view rec)
    (hoff : ∀ r : RelationshipRecord, view { r with isActive := false } = view r) (k : String) :
    (m.sync fresh now s).1.relationships[k]?.map view =
      (m.relationships[k]?.map view).or
        ((s.relationships.find? (·.key == k)).map relationshipView) := by
  rw [map_getElem?_sync_relationships_eq (fun r shown? => shown?.getD (relationshipView r)) _ hoff,
    Filed.shownAfter_getD, List.head?_filter]
  intro r found?
  cases found? with
  | none => exact hnew r
  | some rec => exact hkept r rec

/-- A relationship of the snapshot leaves its record, active and refreshed. -/
theorem getElem?_sync_relationships_of_mem (hkeys : (s.relationships.map Relationship.key).Nodup)
    (hr : r ∈ s.relationships) : (m.sync fresh now s).1.relationships[r.key]? =
      some (syncedRelationship fresh r m.relationships[r.key]?) := by
  have hseen : (s.relationships.map Relationship.key).contains r.key = true :=
    List.contains_iff_mem.2 (List.mem_map_of_mem hr)
  rw [sync_relationships, Std.ExtTreeMap.getElem?_map, Filed.getElem?_foldl_file_of_mem hkeys hr,
    Option.map_some, if_pos hseen]

/-- All other relationships are switched off. -/
theorem getElem?_sync_relationships_of_not_mem
    (hk : k ∉ s.relationships.map Relationship.key) :
    (m.sync fresh now s).1.relationships[k]? =
      m.relationships[k]?.map ({ · with isActive := false }) := by
  have hseen : (s.relationships.map Relationship.key).contains k = false := by
    rw [← Bool.not_eq_true, List.contains_iff_mem]
    exact hk
  rw [sync_relationships, Std.ExtTreeMap.getElem?_map, Filed.getElem?_foldl_file_of_not_mem hk]
  simp only [hseen, Bool.false_eq_true, if_false]

end Relationships

/-! ## Columns and indexes -/

namespace PartKind

variable {α β : Type} {K : PartKind α β} {fresh : RecordKey → Uuid} {now : Instant}
  {records : Metadata → Filed α} {s : Snapshot} {m : Metadata} {t : Table} {b : β} {k : String}

/-- The metadata holds the records of a kind of parts. -/
structure Held (K : PartKind α β) (fresh : RecordKey → Uuid) (records : Metadata → Filed α) :
    Prop where
  syncTable : ∀ now m t, records (syncTable fresh now m t).1 =
    K.sync t (syncTableRecord fresh now m.tables t).2.1 (records m)
  retireParts : ∀ m, records m.retireParts = (records m).map fun _ r =>
    if (inactiveIds m.tables).contains (K.tableId r) then K.switchOff r else r
  ofParts : ∀ {m m' : Metadata}, m.columns = m'.columns → m.indexes = m'.indexes →
    records m = records m'

namespace Held

theorem foldl_step (h : K.Held fresh records) (ts : List Table) (p : Progress) :
    records (ts.foldl (Progress.step fresh now) p).metadata =
      K.syncAll (ownerId (ts.foldl (Progress.step fresh now) p).metadata.tables) ts
        (records p.metadata) := by
  induction ts generalizing p with
  | nil => rfl
  | cons t ts ih =>
    have hid : ownerId (ts.foldl (Progress.step fresh now) (p.step fresh now t)).metadata.tables t =
        (syncTableRecord fresh now p.metadata.tables t).2.1 := by
      rw [ownerId, foldl_step_tables, idOf?_foldl_file, step_tables, idOf?_syncTableRecord]
      rfl
    rw [List.foldl_cons, ih, syncAll, syncAll, List.foldl_cons, hid]
    exact congrArg (fun records => ts.foldl _ records) (h.syncTable now p.metadata t)

/-- A sync goes through the tables and then switches off the parts of those that are inactive. -/
theorem sync (h : K.Held fresh records) : records (m.sync fresh now s).1 =
    (K.syncAll (ownerId (m.sync fresh now s).1.tables) s.tables (records m)).map fun _ r =>
      if (inactiveIds (m.sync fresh now s).1.tables).contains (K.tableId r) then K.switchOff r
      else r := by
  have howner : ownerId (m.sync fresh now s).1.tables =
      ownerId (s.tables.foldl (Progress.step fresh now) ⟨m, [], [], 0⟩).metadata.tables := by
    funext t
    rw [ownerId, idOf?_sync, ownerId, foldl_step_tables, idOf?_foldl_file]
  rw [howner, ← h.foldl_step, sync_tables]
  generalize hfinal : (s.tables.foldl (Progress.step fresh now) ⟨m, [], [], 0⟩).metadata = final
  let retired : Metadata := { final with
    tables := retireTables now (s.tables.map Table.qualifiedName) final.tables }
  have hsame : records retired = records final := h.ofParts rfl rfl
  calc records (m.sync fresh now s).1
      = records retired.retireParts := by
        subst hfinal
        exact h.ofParts rfl rfl
    _ = _ := h.retireParts retired
    _ = _ := by rw [hsame]

/-- What a part's record shows, follows from the parts with its key and from what was shown. -/
theorem map_getElem?_sync_eq {ν : Type} {view : α → ν} (h : K.Held fresh records)
    (next : Table × β → Option ν → ν)
    (hnext : ∀ t id b found?, view (K.record t id b found?) = next (t, b) (found?.map view))
    (hoff : ∀ r, view (K.switchOff r) = view r) (k : String) :
    (records (m.sync fresh now s).1)[k]?.map view =
      Filed.shownAfter next ((K.partsOf s.tables).filter fun p => K.key p.1 p.2 == k)
        ((records m)[k]?.map view) := by
  rw [← map_getElem?_syncAll_eq next hnext hoff (ownerId (m.sync fresh now s).1.tables), h.sync]
  refine Filed.map_getElem?_map (fun k r => ?_) k
  split
  · exact hoff r
  · rfl

theorem map_getElem?_sync {ν : Type} {view : α → ν} (h : K.Held fresh records)
    (partView : Table × β → ν)
    (hnew : ∀ t id b, view (K.record t id b none) = partView (t, b))
    (hkept : ∀ t id b r, view (K.record t id b (some r)) = view r)
    (hoff : ∀ r, view (K.switchOff r) = view r) (k : String) :
    (records (m.sync fresh now s).1)[k]?.map view =
      ((records m)[k]?.map view).or
        (((K.partsOf s.tables).find? fun p => K.key p.1 p.2 == k).map partView) := by
  rw [h.map_getElem?_sync_eq (fun p shown? => shown?.getD (partView p)) _ hoff,
    Filed.shownAfter_getD, List.head?_filter]
  intro t id b found?
  cases found? with
  | none => exact hnew t id b
  | some r => exact hkept t id b r

/-- The record of a part of the snapshot follows from what was found; whether it is active is left
open as long as nothing is known of identities. -/
theorem exists_getElem?_sync (h : K.Held fresh records) (now : Instant) (m : Metadata)
    (hkeys : (K.keys s.tables).Nodup) (ht : t ∈ s.tables) (hb : b ∈ K.parts t) :
    ∃ id r', (records (m.sync fresh now s).1)[K.key t b]? = some r' ∧
      (r' = K.record t id b (records m)[K.key t b]? ∨
        r' = K.switchOff (K.record t id b (records m)[K.key t b]?)) := by
  refine ⟨ownerId (m.sync fresh now s).1.tables t, ?_⟩
  rw [h.sync, Std.ExtTreeMap.getElem?_map]
  rcases getElem?_syncAll_of_mem (ownerId (m.sync fresh now s).1.tables) (records m) hkeys ht hb
    with hr | ⟨-, hr⟩
  · rw [hr, Option.map_some]
    refine ⟨_, rfl, ?_⟩
    split
    · exact .inr rfl
    · exact .inl rfl
  · rw [hr, Option.map_some]
    refine ⟨_, rfl, .inr ?_⟩
    split
    · exact K.switchOff_switchOff _
    · rfl

end Held

end PartKind

theorem fst_syncColumns {fresh : RecordKey → Uuid} {t : Table} {id : Uuid}
    {columns : Filed ColumnRecord} :
    (syncColumns fresh t id columns).1 = (columnKind fresh).sync t id columns := by
  refine congrArg (retire _ _ id _) ?_
  refine (List.foldl_hom Prod.fst ?_).symm
  rintro ⟨columns, changed⟩ c
  simp only [syncColumn, Filed.file, columnKind]
  split
  · next r hr => rw [hr]; rfl
  · next hr => rw [hr]; rfl

theorem syncIndexes_eq {fresh : RecordKey → Uuid} {t : Table} {id : Uuid}
    {indexes : Filed IndexRecord} :
    syncIndexes fresh t id indexes = (indexKind fresh).sync t id indexes := by
  refine congrArg (fun file => retire _ _ id _ (t.indexes.foldl file indexes)) ?_
  funext indexes i
  simp only [syncIndex, Filed.file, indexKind]
  split
  · next r hr => rw [hr]; rfl
  · next hr => rw [hr]; rfl

theorem columns_held (fresh : RecordKey → Uuid) :
    (columnKind fresh).Held fresh Metadata.columns :=
  ⟨fun _ _ _ => fst_syncColumns, fun _ => rfl, fun h _ => h⟩

theorem indexes_held (fresh : RecordKey → Uuid) :
    (indexKind fresh).Held fresh Metadata.indexes :=
  ⟨fun _ _ _ => syncIndexes_eq, fun _ => rfl, fun _ h => h⟩

end SchemaCodegen.Metadata
