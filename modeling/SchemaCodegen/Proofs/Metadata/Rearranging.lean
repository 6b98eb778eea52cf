import SchemaCodegen.Proofs.Metadata.Renaming
import SchemaCodegen.Proofs.Metadata.Reporting
import SchemaCodegen.Proofs.Snapshot.Rearranging

/-!
# Syncing what is listed in another order

A sync goes through a snapshot from table to table, and as it goes it switches parts off that a
table further on may switch on again. But what it leaves under a key, and what it finds out about an
entity, follows from this entity and from the records before, and a table's fingerprint does not
depend on the order of its columns and indexes. So the order in which a snapshot lists things makes
no difference (`sync_rearranged`).
-/

namespace SchemaCodegen

/-- The same was found out, though maybe in another order. -/
structure SyncResult.Rearranged (r r' : SyncResult) : Prop where
  tablesChanged : r.tablesChanged = r'.tablesChanged
  tablesTotal : r.tablesTotal = r'.tablesTotal
  newTables : r.newTables.Perm r'.newTables
  modifiedTables : r.modifiedTables.Perm r'.modifiedTables
  deactivatedTables : r.deactivatedTables = r'.deactivatedTables
  columnsChanged : r.columnsChanged = r'.columnsChanged
  syncedAt : r.syncedAt = r'.syncedAt

namespace Metadata

variable {fresh : RecordKey → Uuid} {now : Instant} {s s' : Snapshot} {m : Metadata}

theorem Fresh.of_rearranged (h : m.Fresh fresh s') (hsame : s.Rearranged s') :
    m.Fresh fresh s := by
  have hkeys : ∀ {k}, k ∈ s.recordKeys → k ∈ s'.recordKeys := hsame.recordKeys_perm.mem_iff.1
  exact ⟨fun hk hk' => h.injective (hkeys hk) (hkeys hk'), fun hk => h.unused (hkeys hk)⟩

/-! ## Records -/

section Records

variable (hsame : s.Rearranged s') (hdefect : s.defect? = none) (hkeys : s.HasDistinctKeys)

include hsame hdefect hkeys

theorem tables_sync_eq (fresh : RecordKey → Uuid) (now : Instant) (m : Metadata) :
    (m.sync fresh now s').1.tables = (m.sync fresh now s).1.tables := by
  refine Std.ExtTreeMap.ext_getElem? fun k => ?_
  by_cases hk : k ∈ s.tables.map Table.qualifiedName
  · obtain ⟨t, ht, rfl⟩ := List.mem_map.1 hk
    obtain ⟨t', ht', halike⟩ := hsame.exists_table ht
    have hrecord : syncedRecord fresh now t' = syncedRecord fresh now t := by
      have hhash := halike.ofTable_eq (Snapshot.nodup_columnNames hdefect ht)
        (Snapshot.nodup_indexNames hdefect ht)
      funext found?
      simp only [syncedRecord, TableRecord.create, hhash, halike.qualifiedName_eq, halike.name,
        halike.schemaName]
    rw [getElem?_sync_tables_of_mem fresh now hkeys.tables ht, halike.qualifiedName_eq,
      getElem?_sync_tables_of_mem fresh now (hsame.hasDistinctKeys hkeys).tables ht', hrecord]
  · rw [getElem?_sync_tables_of_not_mem fresh now hk,
      getElem?_sync_tables_of_not_mem fresh now (hsame.tableKeys_perm.mem_iff.not.1 hk)]

/-- Parts that are filed in the same way wherever they are listed, leave the same records. -/
theorem PartKind.Held.sync_eq_of_rearranged {α β : Type} {K : PartKind α β}
    {records : Metadata → Filed α} (h : K.Held fresh records)
    (howned : K.OwnedBy m.tables (records m)) (hids : IdsDiffer (m.sync fresh now s).1.tables)
    (hparts : ∀ {t t' : Table}, t.Rearranged t' →
      (K.parts t).Perm (K.parts t') ∧ K.key t = K.key t' ∧ K.record t = K.record t')
    (hnodup : (K.keys s.tables).Nodup) :
    records (m.sync fresh now s').1 = records (m.sync fresh now s).1 := by
  have htables := tables_sync_eq hsame hdefect hkeys fresh now m
  have hperm : (K.keys s.tables).Perm (K.keys s'.tables) :=
    hsame.flatMap_perm fun t _ t' halike => by
      obtain ⟨hperm, hkey, -⟩ := hparts halike
      rw [hkey]
      exact hperm.map _
  refine Std.ExtTreeMap.ext_getElem? fun k => ?_
  by_cases hk : k ∈ K.keys s.tables
  · obtain ⟨t, ht, hk⟩ := List.mem_flatMap.1 hk
    obtain ⟨b, hb, rfl⟩ := List.mem_map.1 hk
    obtain ⟨t', ht', halike⟩ := hsame.exists_table ht
    obtain ⟨hperm', hkey, hrecord⟩ := hparts halike
    -- both parts belong to the table under one key, whose record is the same
    rw [h.getElem?_sync_of_mem hids hkeys.tables hnodup ht hb, hkey,
      h.getElem?_sync_of_mem (htables ▸ hids) (hsame.hasDistinctKeys hkeys).tables
        (hperm.nodup_iff.1 hnodup) ht' (hperm'.mem_iff.1 hb), htables, hrecord, ownerId, ownerId,
      halike.qualifiedName_eq]
  · rw [h.getElem?_sync_of_not_mem howned hk,
      h.getElem?_sync_of_not_mem howned (hperm.mem_iff.not.1 hk)]

end Records

theorem relationships_sync_eq (hsame : s.Rearranged s')
    (hkeys : (s.relationships.map Relationship.key).Nodup) (fresh : RecordKey → Uuid)
    (now : Instant) (m : Metadata) :
    (m.sync fresh now s').1.relationships = (m.sync fresh now s).1.relationships := by
  have hperm := hsame.relationships.map Relationship.key
  refine Std.ExtTreeMap.ext_getElem? fun k => ?_
  by_cases hk : k ∈ s.relationships.map Relationship.key
  · obtain ⟨r, hr, rfl⟩ := List.mem_map.1 hk
    rw [getElem?_sync_relationships_of_mem hkeys hr,
      getElem?_sync_relationships_of_mem (hperm.nodup_iff.1 hkeys)
        (hsame.relationships.mem_iff.1 hr)]
  · rw [getElem?_sync_relationships_of_not_mem hk,
      getElem?_sync_relationships_of_not_mem (hperm.mem_iff.not.1 hk)]

/-- With the same identities for new records, a sync leaves the very same records. -/
theorem Owned.sync_eq_of_rearranged (h : Owned m) (hsame : s.Rearranged s')
    (hdefect : s.defect? = none) (hkeys : s.HasDistinctKeys) (hfresh : m.Fresh fresh s) :
    (m.sync fresh now s').1 = (m.sync fresh now s).1 := by
  have hids : IdsDiffer (m.sync fresh now s).1.tables := h.idsDiffer.sync hfresh
  refine Metadata.ext (tables_sync_eq hsame hdefect hkeys fresh now m) ?columns ?indexes
    (relationships_sync_eq hsame (Snapshot.nodup_relationshipKeys hdefect) fresh now m)
  case columns =>
    refine (columns_held fresh).sync_eq_of_rearranged hsame hdefect hkeys h.column hids
      (fun halike => ?_) hkeys.columns
    refine ⟨halike.columns, halike.columnKey_eq, ?_⟩
    funext id c found?
    simp only [columnKind, syncedColumn, halike.columnKey_eq]
  case indexes =>
    refine (indexes_held fresh).sync_eq_of_rearranged hsame hdefect hkeys h.index hids
      (fun halike => ?_) hkeys.indexes
    refine ⟨halike.indexes, halike.indexKey_eq, ?_⟩
    funext id i found?
    simp only [indexKind, syncedIndex, halike.indexKey_eq]

/-! ## Reports -/

section Reports

variable (hsame : s.Rearranged s')

include hsame

theorem reported_perm (hdefect : s.defect? = none) (tables : Filed TableRecord)
    (news : TableNews) :
    ((s.tables.filter fun t => newsOf tables t = news).map Table.name).Perm
      ((s'.tables.filter fun t => newsOf tables t = news).map Table.name) := by
  have hperm := hsame.map_perm (f := fun t => (newsOf tables t, t.name)) fun t ht t' halike => by
    rw [newsOf, newsOf, halike.qualifiedName_eq, halike.name,
      halike.ofTable_eq (Snapshot.nodup_columnNames hdefect ht)
        (Snapshot.nodup_indexNames hdefect ht)]
  have hchosen := (hperm.filter fun e => e.1 = news).map Prod.snd
  rwa [List.filter_map, List.filter_map, List.map_map, List.map_map] at hchosen

theorem countP_isColumnNews (columns : Filed ColumnRecord) :
    s.columns.countP (fun e => isColumnNews columns e.1 e.2) =
      s'.columns.countP fun e => isColumnNews columns e.1 e.2 := by
  rw [Snapshot.columns, List.countP_flatMap, Snapshot.columns, List.countP_flatMap]
  refine (hsame.map_perm fun t _ t' halike => ?_).sum_nat
  rw [Function.comp_apply, Function.comp_apply, List.countP_map, List.countP_map,
    halike.columns.countP_eq]
  refine List.countP_congr fun c _ => ?_
  rw [Function.comp_apply, Function.comp_apply, isColumnNews, isColumnNews, halike.columnKey_eq]

theorem isGone_names_eq :
    isGone (s.tables.map Table.qualifiedName) = isGone (s'.tables.map Table.qualifiedName) := by
  funext key r
  rw [isGone, isGone, hsame.tableKeys_perm.contains_eq]

theorem snd_sync_rearranged (hdefect : s.defect? = none) (hkeys : s.HasDistinctKeys)
    (fresh fresh' : RecordKey → Uuid) (now : Instant) (m : Metadata) :
    (m.sync fresh now s).2.Rearranged (m.sync fresh' now s').2 := by
  have hkeys' := hsame.hasDistinctKeys hkeys
  have hnew : (m.sync fresh now s).2.newTables.Perm (m.sync fresh' now s').2.newTables := by
    rw [newTables_eq hkeys.tables, newTables_eq hkeys'.tables]
    exact reported_perm hsame hdefect m.tables .new
  have hmodified :
      (m.sync fresh now s).2.modifiedTables.Perm (m.sync fresh' now s').2.modifiedTables := by
    rw [modifiedTables_eq hkeys.tables, modifiedTables_eq hkeys'.tables]
    exact reported_perm hsame hdefect m.tables .modified
  have htotal : s.tables.length = s'.tables.length := by
    simpa only [List.length_map] using hsame.tableKeys_perm.length_eq
  refine ⟨congrArg₂ (· + ·) hnew.length_eq hmodified.length_eq, htotal, hnew, hmodified, ?gone,
    ?columns, rfl⟩
  case gone => rw [deactivatedTables_eq, deactivatedTables_eq, isGone_names_eq hsame]
  case columns =>
    rw [columnsChanged_eq hkeys.columns, columnsChanged_eq hkeys'.columns]
    exact countP_isColumnNews hsame m.columns

end Reports

end Metadata

/-- A plan asks a report only whether tables are in its lists. -/
theorem SyncResult.Rearranged.tables_build_eq {r r' : SyncResult} (h : r.Rearranged r')
    (m : Metadata) (includeUnchanged : Bool) (now : Instant) :
    (GenerationPlan.build m r includeUnchanged now).tables =
      (GenerationPlan.build m r' includeUnchanged now).tables := by
  refine List.map_congr_left fun t _ => ?_
  simp only [GenerationPlan.entry, h.newTables.contains_eq, h.modifiedTables.contains_eq]

namespace Metadata

/-- In which order a snapshot lists things, makes no difference: the same records are left but for
new identities, the same is reported but for its order, and the same is planned. -/
theorem sync_rearranged {past : List Snapshot} {m : Metadata} {fresh fresh' : RecordKey → Uuid}
    {s s' : Snapshot} (h : Reachable past m) (hsame : s.Rearranged s') (hdefect : s.defect? = none)
    (hkeys : s.HasDistinctKeys) (hfresh : m.Fresh fresh s) (hfresh' : m.Fresh fresh' s')
    (now : Instant) :
    SameButIds m.ids (m.sync fresh now s).1 (m.sync fresh' now s').1 ∧
      (m.sync fresh now s).2.Rearranged (m.sync fresh' now s').2 ∧
      ∀ includeUnchanged time time',
        (GenerationPlan.build (m.sync fresh now s).1 (m.sync fresh now s).2 includeUnchanged
          time).tables =
        (GenerationPlan.build (m.sync fresh' now s').1 (m.sync fresh' now s').2 includeUnchanged
          time').tables := by
  have hrecords : SameButIds m.ids (m.sync fresh now s).1 (m.sync fresh' now s').1 := by
    have hfresh' : m.Fresh fresh' s := hfresh'.of_rearranged hsame
    rw [h.owned.sync_eq_of_rearranged hsame hdefect hkeys hfresh']
    exact h.owned.sync_sameButIds hfresh hfresh' now
  have hreport := snd_sync_rearranged hsame hdefect hkeys fresh fresh' now m
  refine ⟨hrecords, hreport, fun includeUnchanged time time' => ?_⟩
  rw [hreport.tables_build_eq]
  exact (hrecords.tables_build_eq _ includeUnchanged time).symm

/-! ### Two listings of one database -/

namespace Relisted

open Moved (table reference)

def index (name : String) : Index :=
  ⟨name, false, false, ["k", "x"], none, ["x"]⟩

/-- A known table with its columns and indexes in the given orders, and a new table. -/
def listing (columns indexes : List String) : List Table :=
  [{ table "T" columns with indexes := indexes.map index }, table "U" ["a"]]

def listed : Snapshot :=
  { Moved.snapshot (listing ["k", "x"] ["i", "j"]) (reference "T" "x") with
    relationships := [reference "T" "x", reference "U" "a"] }

def relisted : Snapshot :=
  { Moved.snapshot (listing ["x", "k"] ["j", "i"]).reverse (reference "T" "x") with
    relationships := [reference "U" "a", reference "T" "x"] }

/-- Numbers for the keys of both listings, from a given one on. -/
def idsFrom (n : Nat) (k : RecordKey) : Uuid :=
  .ofNumber (n + listed.recordKeys.idxOf k)

theorem rearranged : listed.Rearranged relisted := by
  refine ⟨⟨_, (List.reverse_perm _).symm, ?_⟩, .swap _ _ _⟩
  refine .cons ⟨rfl, rfl, rfl, .refl _, .refl _⟩ (.cons ⟨rfl, rfl, rfl, ?_, ?_⟩ .nil) <;>
    exact .swap _ _ []

theorem sync_relisted :
    Reachable [Moved.before] Moved.first ∧ listed.Rearranged relisted ∧ listed.defect? = none ∧
      listed.HasDistinctKeys ∧ Moved.first.Fresh (idsFrom 100) listed ∧
      Moved.first.Fresh (idsFrom 200) relisted ∧
      let synced := Moved.first.sync (idsFrom 100) default listed
      let resynced := Moved.first.sync (idsFrom 200) default relisted
      SameButIds Moved.first.ids synced.1 resynced.1 ∧ synced.2.Rearranged resynced.2 ∧
        ∀ includeUnchanged time time',
          (GenerationPlan.build synced.1 synced.2 includeUnchanged time).tables =
            (GenerationPlan.build resynced.1 resynced.2 includeUnchanged time').tables := by
  have usable : listed.defect? = none := by decide
  have hkeys : listed.HasDistinctKeys := ⟨by decide, by decide, by decide⟩
  have hfresh : Moved.first.Fresh (idsFrom 100) listed := Moved.fresh_of_forall (by decide)
  have hfresh' : Moved.first.Fresh (idsFrom 200) relisted := Moved.fresh_of_forall (by decide)
  exact ⟨Moved.reachable_first, rearranged, usable, hkeys, hfresh, hfresh',
    sync_rearranged Moved.reachable_first rearranged usable hkeys hfresh hfresh' default⟩

end Relisted

end Metadata

end SchemaCodegen
