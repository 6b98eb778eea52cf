import Mathlib.Logic.Equiv.Fintype
import SchemaCodegen.Proofs.Metadata.Identity

/-!
# Metadata under other identities

Identities only tell records apart. Records can be given others (`Metadata.rename`), and as long as
no two become one, a sync goes on in the same way (`rename_sync`). Two ways to give identities to
new records differ by such a renaming, which leaves those that are in use alone
(`Fresh.exists_perm`). So what a sync leaves does not depend on the identities that it is given, but
for these identities themselves (`Owned.sync_sameButIds`).
-/

namespace SchemaCodegen

instance : Finite Uuid :=
  Finite.of_injective (fun id => id.bits.toFin) fun id id' h => by
    cases id
    cases id'
    exact congrArg Uuid.mk (BitVec.toFin_inj.1 h)

def TableRecord.rename (f : Uuid → Uuid) (r : TableRecord) : TableRecord :=
  { r with id := f r.id }

def ColumnRecord.rename (f : Uuid → Uuid) (r : ColumnRecord) : ColumnRecord :=
  { r with id := f r.id, tableId := f r.tableId }

def IndexRecord.rename (f : Uuid → Uuid) (r : IndexRecord) : IndexRecord :=
  { r with id := f r.id, tableId := f r.tableId }

def RelationshipRecord.rename (f : Uuid → Uuid) (r : RelationshipRecord) : RelationshipRecord :=
  { r with id := f r.id }

/-- The metadata with another identity in the place of each one. -/
def Metadata.rename (f : Uuid → Uuid) (m : Metadata) : Metadata where
  tables := m.tables.map fun _ r => r.rename f
  columns := m.columns.map fun _ r => r.rename f
  indexes := m.indexes.map fun _ r => r.rename f
  relationships := m.relationships.map fun _ r => r.rename f

namespace Filed

variable {α β : Type} {key : β → String} {record record' : β → Option α → α} {g : α → α}

theorem map_eq_self {records : Filed α}
    (h : ∀ {k : String} {r : α}, records[k]? = some r → g r = r) :
    (records.map fun _ => g) = records := by
  refine Std.ExtTreeMap.ext_getElem? fun k => ?_
  rw [Std.ExtTreeMap.getElem?_map]
  cases hr : records[k]? with
  | none => rfl
  | some r => rw [Option.map_some, h hr]

theorem map_map_comm {off off' : String → α → α} (h : ∀ k r, off' k (g r) = g (off k r))
    (records : Filed α) :
    (records.map fun _ => g).map off' = (records.map off).map fun _ => g := by
  refine Std.ExtTreeMap.ext_getElem? fun k => ?_
  simp only [Std.ExtTreeMap.getElem?_map, Option.map_map]
  exact Option.map_congr fun r _ => h k r

theorem file_map {b : β} (h : ∀ found?, record' b (found?.map g) = g (record b found?))
    (records : Filed α) :
    file key record' (records.map fun _ => g) b = (file key record records b).map fun _ => g := by
  refine Std.ExtTreeMap.ext_getElem? fun k => ?_
  rw [getElem?_file, Std.ExtTreeMap.getElem?_map, Std.ExtTreeMap.getElem?_map, getElem?_file, h]
  split <;> rfl

theorem foldl_file_map {bs : List β}
    (h : ∀ b ∈ bs, ∀ found?, record' b (found?.map g) = g (record b found?))
    (records : Filed α) : bs.foldl (file key record') (records.map fun _ => g) =
      (bs.foldl (file key record) records).map fun _ => g := by
  induction bs generalizing records with
  | nil => rfl
  | cons b bs ih =>
    rw [List.foldl_cons, file_map (h b List.mem_cons_self),
      ih fun b hb => h b (List.mem_cons_of_mem _ hb), List.foldl_cons]

end Filed

namespace Metadata

/-! ## Parts of tables -/

namespace PartKind

variable {α β : Type} {K K' : PartKind α β} {f : Uuid → Uuid} {g : α → α} {ts : List Table}

/-- The second kind does with the records of some tables, when they are renamed, what the first one
does with the records as they are. -/
structure Renames (K K' : PartKind α β) (f : Uuid → Uuid) (g : α → α) (ts : List Table) :
    Prop where
  parts : K'.parts = K.parts
  key : K'.key = K.key
  tableId : ∀ r, K'.tableId (g r) = f (K.tableId r)
  switchOff : ∀ r, K'.switchOff (g r) = g (K.switchOff r)
  record : ∀ {t : Table} {b : β}, t ∈ ts → b ∈ K.parts t → ∀ id found?,
    K'.record t (f id) b (found?.map g) = g (K.record t id b found?)

namespace Renames

variable (h : K.Renames K' f g ts) (hf : Function.Injective f)

include h hf

theorem sync {t : Table} (ht : t ∈ ts) (id : Uuid) (records : Filed α) :
    K'.sync t (f id) (records.map fun _ => g) = (K.sync t id records).map fun _ => g := by
  rw [PartKind.sync, h.parts, h.key, Filed.foldl_file_map fun b hb => h.record ht hb id]
  refine Filed.map_map_comm (fun k r => ?_) _
  simp only [h.tableId, hf.eq_iff, h.switchOff, apply_ite g]

theorem syncAll {id id' : Table → Uuid} {ts' : List Table} (hsub : ts' ⊆ ts)
    (hid : ∀ t ∈ ts', id' t = f (id t)) (records : Filed α) :
    K'.syncAll id' ts' (records.map fun _ => g) = (K.syncAll id ts' records).map fun _ => g := by
  induction ts' generalizing records with
  | nil => rfl
  | cons t ts' ih =>
    rw [List.cons_subset] at hsub
    rw [PartKind.syncAll, List.foldl_cons, hid t List.mem_cons_self, h.sync hf hsub.1]
    exact ih hsub.2 (fun t ht => hid t (List.mem_cons_of_mem _ ht)) _

end Renames

end PartKind

/-! ## The whole sync -/

section Sync

variable {f : Uuid → Uuid} {fresh fresh' : RecordKey → Uuid} {s : Snapshot}

theorem inactiveIds_map_rename (tables : Filed TableRecord) :
    inactiveIds (tables.map fun _ r => r.rename f) = (inactiveIds tables).map f := by
  rw [inactiveIds, Std.ExtTreeMap.toList_map, List.filterMap_map, inactiveIds, List.map_filterMap]
  refine List.filterMap_congr fun e _ => ?_
  rw [Function.comp_apply]
  cases he : e.2.isActive <;> simp [TableRecord.rename, he]

section Given

variable (hgiven : ∀ k ∈ s.recordKeys, f (fresh k) = fresh' k) (now : Instant) (m : Metadata)

include hgiven

theorem tables_sync_rename : ((m.rename f).sync fresh' now s).1.tables =
    (m.sync fresh now s).1.tables.map fun _ r => r.rename f := by
  have hrecord : ∀ t ∈ s.tables, ∀ found?,
      syncedRecord fresh' now t (found?.map (TableRecord.rename f)) =
        (syncedRecord fresh now t found?).rename f := by
    intro t ht found?
    cases found? with
    | none =>
      simp only [Option.map_none, syncedRecord, TableRecord.create, TableRecord.rename,
        hgiven _ (tableKey_mem_recordKeys.2 (List.mem_map_of_mem ht))]
    | some r => rfl
  rw [sync_tables, sync_tables, foldl_step_tables, foldl_step_tables, rename,
    Filed.foldl_file_map hrecord]
  refine Filed.map_map_comm (fun k r => ?_) _
  rw [apply_ite (TableRecord.rename f)]
  rfl

theorem relationships_sync_rename : ((m.rename f).sync fresh' now s).1.relationships =
    (m.sync fresh now s).1.relationships.map fun _ r => r.rename f := by
  have hrecord : ∀ r ∈ s.relationships, ∀ found?,
      syncedRelationship fresh' r (found?.map (RelationshipRecord.rename f)) =
        (syncedRelationship fresh r found?).rename f := by
    intro r hr found?
    cases found? with
    | none =>
      simp only [Option.map_none, syncedRelationship, RelationshipRecord.create,
        RelationshipRecord.rename,
        hgiven _ (relationshipKey_mem_recordKeys.2 (List.mem_map_of_mem hr))]
    | some rec => rfl
  rw [sync_relationships, sync_relationships, rename, Filed.foldl_file_map hrecord]
  refine Filed.map_map_comm (fun k r => ?_) _
  rw [apply_ite (RelationshipRecord.rename f)]
  rfl

theorem columns_renames : (columnKind fresh).Renames (columnKind fresh') f (ColumnRecord.rename f)
    s.tables := by
  refine ⟨rfl, rfl, fun _ => rfl, fun _ => rfl, fun {t c} ht hc id found? => ?_⟩
  have hmem : (t, c) ∈ s.columns := List.mem_flatMap.2 ⟨t, ht, List.mem_map_of_mem hc⟩
  cases found? with
  | none =>
    simp only [Option.map_none, columnKind, syncedColumn, ColumnRecord.create, ColumnRecord.rename,
      hgiven _ (columnKey_mem_recordKeys.2 (List.mem_map_of_mem hmem))]
  | some r => rfl

theorem indexes_renames : (indexKind fresh).Renames (indexKind fresh') f (IndexRecord.rename f)
    s.tables := by
  refine ⟨rfl, rfl, fun _ => rfl, fun _ => rfl, fun {t i} ht hi id found? => ?_⟩
  have hmem : (t, i) ∈ s.indexes := List.mem_flatMap.2 ⟨t, ht, List.mem_map_of_mem hi⟩
  cases found? with
  | none =>
    simp only [Option.map_none, indexKind, syncedIndex, IndexRecord.create, IndexRecord.rename,
      hgiven _ (indexKey_mem_recordKeys.2 (List.mem_map_of_mem hmem))]
  | some r => rfl

variable (hf : Function.Injective f)

include hf

theorem PartKind.Renames.map_sync {α β : Type} {K K' : PartKind α β} {g : α → α}
    {records : Metadata → Filed α} (hrenames : K.Renames K' f g s.tables)
    (h : K.Held fresh records) (h' : K'.Held fresh' records)
    (hrecords : records (m.rename f) = (records m).map fun _ => g) :
    records ((m.rename f).sync fresh' now s).1 =
      (records (m.sync fresh now s).1).map fun _ => g := by
  have howner : ∀ t ∈ s.tables, ownerId ((m.rename f).sync fresh' now s).1.tables t =
      f (ownerId (m.sync fresh now s).1.tables t) := by
    intro t ht
    have hid := congrArg (Option.map f) (idOf?_sync_of_mem fresh now (m := m) ht)
    rw [ownerId, idOf?, tables_sync_rename hgiven, Std.ExtTreeMap.getElem?_map, Option.map_map]
    rw [idOf?, Option.map_map] at hid
    exact congrArg (Option.getD · default) hid
  rw [h'.sync, h.sync, hrecords, hrenames.syncAll hf (List.Subset.refl _) howner,
    tables_sync_rename hgiven, inactiveIds_map_rename]
  refine Filed.map_map_comm (fun k r => ?_) _
  simp only [List.contains_iff_mem, hrenames.tableId, List.mem_map_of_injective hf,
    hrenames.switchOff, apply_ite g]

/-- A sync takes no notice of identities, as long as no two of them become one. -/
theorem sync_rename :
    ((m.rename f).sync fresh' now s).1 = (m.sync fresh now s).1.rename f := by
  have hcolumns := (columns_renames hgiven).map_sync hgiven now m hf (columns_held fresh)
    (columns_held fresh') rfl
  have hindexes := (indexes_renames hgiven).map_sync hgiven now m hf (indexes_held fresh)
    (indexes_held fresh') rfl
  exact Metadata.ext (tables_sync_rename hgiven now m) hcolumns hindexes
    (relationships_sync_rename hgiven now m)

end Given

end Sync

/-! ## Other new identities -/

/-- What stands for an identity where the records with some keys are given others: `fresh' k` in the
place of `fresh k`, and for all other identities these themselves. -/
def exchange (keys : List RecordKey) (fresh fresh' : RecordKey → Uuid) (id : Uuid) : Uuid :=
  ((keys.find? (fresh · == id)).map fresh').getD id

/-- All that differs are identities, and none of the known ones. -/
def SameButIds (known : List Uuid) (m m' : Metadata) : Prop :=
  ∃ f : Equiv.Perm Uuid, (∀ id ∈ known, f id = id) ∧ m' = m.rename f

section Fresh

variable {fresh fresh' : RecordKey → Uuid} {s : Snapshot} {m : Metadata}

theorem exchange_of_mem_ids (h : m.Fresh fresh s) {id : Uuid} (hid : id ∈ m.ids) :
    exchange s.recordKeys fresh fresh' id = id := by
  have hnone : s.recordKeys.find? (fresh · == id) = none := by
    refine List.find?_eq_none.2 fun k hk heq => h.unused hk ?_
    rwa [beq_iff_eq.1 heq]
  rw [exchange, hnone]
  rfl

theorem exchange_fresh (h : m.Fresh fresh s) {k : RecordKey} (hk : k ∈ s.recordKeys) :
    exchange s.recordKeys fresh fresh' (fresh k) = fresh' k := by
  have hsome : (s.recordKeys.find? (fresh · == fresh k)).isSome :=
    List.find?_isSome.2 ⟨k, hk, beq_self_eq_true _⟩
  obtain ⟨k', hk'⟩ := Option.isSome_iff_exists.1 hsome
  have hsame : k' = k := h.injective (List.mem_of_find?_eq_some hk') hk
    (by simpa using List.find?_some hk')
  rw [exchange, hk', hsame]
  rfl

theorem injOn_exchange (h : m.Fresh fresh s) (h' : m.Fresh fresh' s) :
    Set.InjOn (exchange s.recordKeys fresh fresh')
      {id | id ∈ m.ids ∨ ∃ k ∈ s.recordKeys, fresh k = id} := by
  rintro _ (hid | ⟨k, hk, rfl⟩) _ (hid' | ⟨k', hk', rfl⟩) hsame
  · rwa [exchange_of_mem_ids h hid, exchange_of_mem_ids h hid'] at hsame
  · rw [exchange_of_mem_ids h hid, exchange_fresh h hk'] at hsame
    exact absurd (hsame ▸ hid) (h'.unused hk')
  · rw [exchange_fresh h hk, exchange_of_mem_ids h hid'] at hsame
    exact absurd (hsame ▸ hid') (h'.unused hk)
  · rw [exchange_fresh h hk, exchange_fresh h hk'] at hsame
    rw [h'.injective hk hk' hsame]

/-- Two ways to give identities to new records differ by a renaming that leaves all identities alone
that are in use. -/
theorem Fresh.exists_perm (h : m.Fresh fresh s) (h' : m.Fresh fresh' s) :
    ∃ f : Equiv.Perm Uuid, (∀ id ∈ m.ids, f id = id) ∧
      ∀ k ∈ s.recordKeys, f (fresh k) = fresh' k := by
  classical
  refine ⟨(Equiv.Set.imageOfInjOn _ _ (injOn_exchange h h')).extendSubtype, fun id hid => ?_,
    fun k hk => ?_⟩
  · rw [Equiv.extendSubtype_apply_of_mem _ _ (.inl hid)]
    exact exchange_of_mem_ids h hid
  · rw [Equiv.extendSubtype_apply_of_mem _ _ (.inr ⟨k, hk, rfl⟩)]
    exact exchange_fresh h hk

theorem Owned.rename_eq_self {f : Uuid → Uuid} (h : Owned m) (hf : ∀ id ∈ m.ids, f id = id) :
    m.rename f = m := by
  have hlabel : ∀ {k : RecordKey} {id : Uuid} {key : String}, label? m k = some (id, key) →
      f id = id := fun hk => hf _ (mem_ids_iff.2 ⟨_, _, hk⟩)
  have howner : ∀ {id : Uuid}, (∃ owner, idOf? m.tables owner = some id) → f id = id :=
    fun ⟨_, hid⟩ => hf _ (mem_ids_of_idOf? hid)
  refine Metadata.ext (Filed.map_eq_self fun {k r} hr => ?_) (Filed.map_eq_self fun {k r} hr => ?_)
    (Filed.map_eq_self fun {k r} hr => ?_) (Filed.map_eq_self fun {k r} hr => ?_)
  · rw [TableRecord.rename, hlabel (k := ⟨.table, k⟩) (congrArg (Option.map _) hr)]
  · rw [ColumnRecord.rename, hlabel (k := ⟨.column, k⟩) (congrArg (Option.map _) hr),
      howner (h.column hr)]
  · rw [IndexRecord.rename, hlabel (k := ⟨.index, k⟩) (congrArg (Option.map _) hr),
      howner (h.index hr)]
  · rw [RelationshipRecord.rename, hlabel (k := ⟨.relationship, k⟩) (congrArg (Option.map _) hr)]

/-- The identities of new records are all that depends on how a sync gives them. -/
theorem Owned.sync_sameButIds (h : Owned m) (hfresh : m.Fresh fresh s) (hfresh' : m.Fresh fresh' s)
    (now : Instant) : SameButIds m.ids (m.sync fresh now s).1 (m.sync fresh' now s).1 := by
  obtain ⟨f, hknown, hgiven⟩ := hfresh.exists_perm hfresh'
  refine ⟨f, hknown, ?_⟩
  rw [← sync_rename hgiven now m f.injective, h.rename_eq_self hknown]

end Fresh

/-! ## Plans -/

theorem activeTables_rename (f : Uuid → Uuid) (m : Metadata) :
    (m.rename f).activeTables = m.activeTables.map (TableRecord.rename f) := by
  rw [activeTables, rename, Std.ExtTreeMap.toList_map, activeTables, List.filter_map,
    List.filter_map, List.filter_map, List.map_map, List.map_map]
  rfl

/-- A plan does not mention identities. -/
theorem SameButIds.tables_build_eq {known : List Uuid} {m m' : Metadata}
    (h : SameButIds known m m') (sync : SyncResult) (includeUnchanged : Bool) (now : Instant) :
    (GenerationPlan.build m' sync includeUnchanged now).tables =
      (GenerationPlan.build m sync includeUnchanged now).tables := by
  obtain ⟨f, -, rfl⟩ := h
  rw [GenerationPlan.build, activeTables_rename, List.map_map]
  rfl

end Metadata

end SchemaCodegen
