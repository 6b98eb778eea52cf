import SchemaCodegen.Proofs.Metadata.Filing

/-!
# The parts of tables under a sync

Columns and indexes go through a sync in the same way: when the sync comes to a table, the table's
parts are filed and the other records that belong to it are switched off, while the records of
tables further on still stand as they were. `PartKind` says what the two have in common. The main
statements say what is left under a key when all tables have been synced: the record of the part
with this key, if the tables have one (`getElem?_syncAll_of_mem`), and otherwise the old record,
switched off if it belonged to one of the tables (`getElem?_syncAll_of_not_mem`).
-/

namespace SchemaCodegen.Metadata

/-- A kind of parts of tables and their records. A record is refreshed in the same way whether it
was switched off or not, and refreshing it twice is refreshing it once. -/
structure PartKind (α β : Type) where
  parts : Table → List β
  key : Table → β → String
  /-- The record of a part of a table with a given identity, made from the record that was found. -/
  record : Table → Uuid → β → Option α → α
  tableId : α → Uuid
  isActive : α → Bool
  switchOff : α → α
  recordName : α → String
  partName : β → String
  tableId_record : ∀ t id b found?, tableId (record t id b found?) = id
  isActive_record : ∀ t id b found?, isActive (record t id b found?) = true
  record_switchOff : ∀ t id b r, record t id b (some (switchOff r)) = record t id b (some r)
  record_record : ∀ t id b found?,
    record t id b (some (record t id b found?)) = record t id b found?
  recordName_new : ∀ t id b, recordName (record t id b none) = partName b
  recordName_found : ∀ t id b r, recordName (record t id b (some r)) = recordName r
  tableId_switchOff : ∀ r, tableId (switchOff r) = tableId r
  isActive_switchOff : ∀ r, isActive (switchOff r) = false
  switchOff_switchOff : ∀ r, switchOff (switchOff r) = switchOff r
  recordName_switchOff : ∀ r, recordName (switchOff r) = recordName r

/-- The record that a sync leaves for a column where it found `found?`. -/
def syncedColumn (fresh : RecordKey → Uuid) (t : Table) (tableId : Uuid) (c : Column)
    (found? : Option ColumnRecord) : ColumnRecord :=
  match found? with
  | some r => r.refresh tableId (Fingerprint.ofColumn c) c
  | none =>
    .create (fresh ⟨.column, columnKey t c⟩) tableId (columnKey t c) (Fingerprint.ofColumn c) c

/-- The record that a sync leaves for an index where it found `found?`. -/
def syncedIndex (fresh : RecordKey → Uuid) (t : Table) (tableId : Uuid) (i : Index)
    (found? : Option IndexRecord) : IndexRecord :=
  match found? with
  | some r => r.refresh tableId (Fingerprint.ofIndex i) i
  | none =>
    .create (fresh ⟨.index, indexKey t i⟩) tableId (indexKey t i) (Fingerprint.ofIndex i) i

theorem syncedColumn_syncedColumn (fresh : RecordKey → Uuid) (t : Table) (id : Uuid) (c : Column)
    (found? : Option ColumnRecord) :
    syncedColumn fresh t id c (some (syncedColumn fresh t id c found?)) =
      syncedColumn fresh t id c found? := by
  cases found? with
  | none =>
    simp only [syncedColumn, ColumnRecord.refresh, ColumnRecord.fill, ColumnRecord.create,
      HashPair.rotate_first]
  | some r =>
    simp only [syncedColumn, ColumnRecord.refresh, ColumnRecord.fill, HashPair.rotate_rotate]

theorem syncedIndex_syncedIndex (fresh : RecordKey → Uuid) (t : Table) (id : Uuid) (i : Index)
    (found? : Option IndexRecord) :
    syncedIndex fresh t id i (some (syncedIndex fresh t id i found?)) =
      syncedIndex fresh t id i found? := by
  cases found? with
  | none => simp only [syncedIndex, IndexRecord.refresh, IndexRecord.create, HashPair.rotate_first]
  | some r => simp only [syncedIndex, IndexRecord.refresh, HashPair.rotate_rotate]

/-- Columns as parts of tables. -/
def columnKind (fresh : RecordKey → Uuid) : PartKind ColumnRecord Column where
  parts := Table.columns
  key := columnKey
  record := syncedColumn fresh
  tableId := ColumnRecord.tableId
  isActive := ColumnRecord.isActive
  switchOff r := { r with isActive := false }
  recordName := ColumnRecord.columnName
  partName := Column.name
  tableId_record _ _ _ found? := by cases found? <;> rfl
  isActive_record _ _ _ found? := by cases found? <;> rfl
  record_switchOff _ _ _ _ := rfl
  record_record := syncedColumn_syncedColumn fresh
  recordName_new _ _ _ := rfl
  recordName_found _ _ _ _ := rfl
  tableId_switchOff _ := rfl
  isActive_switchOff _ := rfl
  switchOff_switchOff _ := rfl
  recordName_switchOff _ := rfl

/-- Indexes as parts of tables. -/
def indexKind (fresh : RecordKey → Uuid) : PartKind IndexRecord Index where
  parts := Table.indexes
  key := indexKey
  record := syncedIndex fresh
  tableId := IndexRecord.tableId
  isActive := IndexRecord.isActive
  switchOff r := { r with isActive := false }
  recordName := IndexRecord.indexName
  partName := Index.name
  tableId_record _ _ _ found? := by cases found? <;> rfl
  isActive_record _ _ _ found? := by cases found? <;> rfl
  record_switchOff _ _ _ _ := rfl
  record_record := syncedIndex_syncedIndex fresh
  recordName_new _ _ _ := rfl
  recordName_found _ _ _ _ := rfl
  tableId_switchOff _ := rfl
  isActive_switchOff _ := rfl
  switchOff_switchOff _ := rfl
  recordName_switchOff _ := rfl

theorem getElem?_retire {α : Type} {tableOf : α → Uuid} {switchOff : α → α} {id : Uuid}
    {seen : List String} {records : Filed α} (k : String) :
    (retire tableOf switchOff id seen records)[k]? =
      records[k]?.map fun r => if tableOf r = id ∧ k ∉ seen then switchOff r else r :=
  Std.ExtTreeMap.getElem?_map

namespace PartKind

variable {α β : Type} (K : PartKind α β)

/-- Switching a record off leaves it to its table. -/
theorem tableId_ite (isOff : Prop) [Decidable isOff] (r : α) :
    K.tableId (if isOff then K.switchOff r else r) = K.tableId r := by
  split
  · exact K.tableId_switchOff r
  · rfl

/-! ## One table -/

/-- The records with the parts of one table, and all else of it switched off. -/
def sync (t : Table) (id : Uuid) (records : Filed α) : Filed α :=
  retire K.tableId K.switchOff id ((K.parts t).map (K.key t))
    ((K.parts t).foldl (Filed.file (K.key t) (K.record t id)) records)

section Sync

variable {K} {t : Table} {id : Uuid} {records : Filed α} {k : String}

theorem getElem?_sync_of_not_mem (h : k ∉ (K.parts t).map (K.key t)) :
    (K.sync t id records)[k]? =
      records[k]?.map fun r => if K.tableId r = id then K.switchOff r else r := by
  rw [sync, getElem?_retire, Filed.getElem?_foldl_file_of_not_mem h]
  simp [h]

theorem getElem?_sync_of_mem (hkeys : ((K.parts t).map (K.key t)).Nodup) {b : β}
    (hb : b ∈ K.parts t) :
    (K.sync t id records)[K.key t b]? = some (K.record t id b records[K.key t b]?) := by
  rw [sync, getElem?_retire, Filed.getElem?_foldl_file_of_mem hkeys hb, Option.map_some, if_neg]
  exact fun h => h.2 (List.mem_map_of_mem hb)

/-- A record belongs to the table that was synced, or it was there and belonged to the same one. -/
theorem of_getElem?_sync {r' : α} (h : (K.sync t id records)[k]? = some r') :
    K.tableId r' = id ∨ ∃ r, records[k]? = some r ∧ K.tableId r = K.tableId r' := by
  rw [sync, getElem?_retire, Option.map_eq_some_iff] at h
  obtain ⟨r, hr, rfl⟩ := h
  rw [K.tableId_ite]
  rcases Filed.of_getElem?_foldl_file hr with ⟨b, -, -, found?, rfl⟩ | ⟨-, hr⟩
  · exact .inl (K.tableId_record t id b found?)
  · exact .inr ⟨r, hr, rfl⟩

end Sync

/-- The parts of tables, each with its table. -/
def partsOf (ts : List Table) : List (Table × β) :=
  ts.flatMap fun t => (K.parts t).map (t, ·)

/-- What the parts of a table show, follows from what was shown before. -/
theorem map_getElem?_sync_eq {ν : Type} {view : α → ν} (next : Table × β → Option ν → ν)
    (hnext : ∀ t id b found?, view (K.record t id b found?) = next (t, b) (found?.map view))
    (hoff : ∀ r, view (K.switchOff r) = view r) (t : Table) (id : Uuid) (records : Filed α)
    (k : String) : (K.sync t id records)[k]?.map view =
      Filed.shownAfter next (((K.parts t).map (t, ·)).filter fun p => K.key p.1 p.2 == k)
        (records[k]?.map view) := by
  rw [← Filed.map_getElem?_foldl_file_eq next fun p found? => hnext p.1 id p.2 found?,
    List.foldl_map]
  refine Filed.map_getElem?_map (fun k r => ?_) k
  split
  · exact hoff r
  · rfl

/-! ## All tables -/

/-- The records after all tables, which have the given identities. -/
def syncAll (id : Table → Uuid) (ts : List Table) (records : Filed α) : Filed α :=
  ts.foldl (fun records t => K.sync t (id t) records) records

/-- The keys of the parts of tables. -/
def keys (ts : List Table) : List String :=
  ts.flatMap fun t => (K.parts t).map (K.key t)

section SyncAll

variable {K} {id : Table → Uuid} {ts : List Table} {records : Filed α} {k : String}

theorem keys_cons (t : Table) : K.keys (t :: ts) = (K.parts t).map (K.key t) ++ K.keys ts := rfl

theorem partsOf_cons (t : Table) :
    K.partsOf (t :: ts) = (K.parts t).map (t, ·) ++ K.partsOf ts := rfl

theorem mem_keys_of_mem_partsOf {e : Table × β} (h : e ∈ K.partsOf ts) :
    K.key e.1 e.2 ∈ K.keys ts := by
  obtain ⟨t, ht, he⟩ := List.mem_flatMap.1 h
  obtain ⟨b, hb, rfl⟩ := List.mem_map.1 he
  exact List.mem_flatMap.2 ⟨t, ht, List.mem_map_of_mem hb⟩

theorem getElem?_syncAll_of_not_mem (h : k ∉ K.keys ts) :
    (K.syncAll id ts records)[k]? =
      records[k]?.map fun r => if K.tableId r ∈ ts.map id then K.switchOff r else r := by
  induction ts generalizing records with
  | nil => simp [syncAll]
  | cons t ts ih =>
    rw [keys_cons, List.mem_append, not_or] at h
    rw [syncAll, List.foldl_cons, ← syncAll, ih h.2, getElem?_sync_of_not_mem h.1, Option.map_map]
    refine congrArg (fun f => records[k]?.map f) (funext fun r => ?_)
    by_cases ht : K.tableId r = id t
    · simp [ht, K.switchOff_switchOff]
    · simp [ht]

/-- A part leaves the record that follows from what was found before the sync. If a table further on
has the identity of its own table, it is switched off again. -/
theorem getElem?_syncAll_append (id : Table → Uuid) (records : Filed α) {before after : List Table}
    {t : Table} (hkeys : (K.keys (before ++ t :: after)).Nodup) {b : β} (hb : b ∈ K.parts t) :
    (K.syncAll id (before ++ t :: after) records)[K.key t b]? =
      some (if id t ∈ after.map id then K.switchOff (K.record t (id t) b records[K.key t b]?)
        else K.record t (id t) b records[K.key t b]?) := by
  rw [keys, List.flatMap_append, List.flatMap_cons, ← keys, ← keys] at hkeys
  have hkey := List.mem_map_of_mem (f := K.key t) hb
  have hbefore : K.key t b ∉ K.keys before := fun h =>
    (List.nodup_append.1 hkeys).2.2 _ h _ (List.mem_append_left _ hkey) rfl
  obtain ⟨hown, -, hdisjoint⟩ := List.nodup_append.1 (List.nodup_append.1 hkeys).2.1
  have hafter : K.key t b ∉ K.keys after := fun h => hdisjoint _ hkey _ h rfl
  -- the tables before may have switched the record off, which its refreshment undoes
  have hfound : K.record t (id t) b (K.syncAll id before records)[K.key t b]? =
      K.record t (id t) b records[K.key t b]? := by
    rw [getElem?_syncAll_of_not_mem hbefore]
    cases records[K.key t b]? with
    | none => rfl
    | some r =>
      rw [Option.map_some]
      split
      · exact K.record_switchOff t (id t) b r
      · rfl
  rw [syncAll, List.foldl_append, List.foldl_cons, ← syncAll, ← syncAll,
    getElem?_syncAll_of_not_mem hafter, getElem?_sync_of_mem hown hb, hfound, Option.map_some,
    K.tableId_record]

/-- Only if the tables do not have their own identities can a part be switched off again. -/
theorem getElem?_syncAll_of_mem (id : Table → Uuid) (records : Filed α)
    (hkeys : (K.keys ts).Nodup) {t : Table} (ht : t ∈ ts) {b : β} (hb : b ∈ K.parts t) :
    (K.syncAll id ts records)[K.key t b]? = some (K.record t (id t) b records[K.key t b]?) ∨
      ¬ (ts.map id).Nodup ∧ (K.syncAll id ts records)[K.key t b]? =
        some (K.switchOff (K.record t (id t) b records[K.key t b]?)) := by
  obtain ⟨before, after, rfl⟩ := List.append_of_mem ht
  rw [getElem?_syncAll_append id records hkeys hb]
  by_cases hid : id t ∈ after.map id
  · rw [if_pos hid]
    refine .inr ⟨fun hnodup => ?_, rfl⟩
    rw [List.map_append, List.map_cons] at hnodup
    exact (List.nodup_cons.1 (List.nodup_append.1 hnodup).2.1).1 hid
  · rw [if_neg hid]
    exact .inl rfl

/-- A record belongs to one of the tables, or it was there and belonged to the same one. -/
theorem of_getElem?_syncAll {r' : α} (h : (K.syncAll id ts records)[k]? = some r') :
    K.tableId r' ∈ ts.map id ∨ ∃ r, records[k]? = some r ∧ K.tableId r = K.tableId r' := by
  induction ts generalizing records with
  | nil => exact .inr ⟨r', h, rfl⟩
  | cons t ts ih =>
    rw [List.map_cons, List.mem_cons]
    rcases ih h with hid | ⟨r₁, hr₁, hid⟩
    · exact .inl (.inr hid)
    · rcases of_getElem?_sync hr₁ with ht | ⟨r, hr, hsame⟩
      · exact .inl (.inl (hid ▸ ht))
      · exact .inr ⟨r, hr, hsame.trans hid⟩

theorem map_getElem?_syncAll_eq {ν : Type} {view : α → ν} (next : Table × β → Option ν → ν)
    (hnext : ∀ t id b found?, view (K.record t id b found?) = next (t, b) (found?.map view))
    (hoff : ∀ r, view (K.switchOff r) = view r) (id : Table → Uuid) (ts : List Table)
    (records : Filed α) (k : String) : (K.syncAll id ts records)[k]?.map view =
      Filed.shownAfter next ((K.partsOf ts).filter fun p => K.key p.1 p.2 == k)
        (records[k]?.map view) := by
  induction ts generalizing records with
  | nil => rfl
  | cons t ts ih =>
    rw [syncAll, List.foldl_cons, ← syncAll, ih, K.map_getElem?_sync_eq next hnext hoff,
      ← Filed.shownAfter_append, ← List.filter_append]
    rfl

end SyncAll

end PartKind

end SchemaCodegen.Metadata
