import SchemaCodegen.Proofs.Metadata.Ownership

/-!
# Metadata over many syncs

`Reachable` metadata is what syncs, stamps and changes of flags lead to from nothing, in any order
and with any snapshots. Two things hold of it: columns and indexes belong to stored tables
(`Reachable.owned`), and records are named as the first entities that were ever filed under their
keys (`Reachable.named`). Later syncs refresh all else of a record, but never its names.
-/

namespace SchemaCodegen

/-- The columns of a snapshot, each with its table. -/
def Snapshot.columns (s : Snapshot) : List (Table × Column) :=
  s.tables.flatMap fun t => t.columns.map (t, ·)

/-- The indexes of a snapshot, each with its table. -/
def Snapshot.indexes (s : Snapshot) : List (Table × Index) :=
  s.tables.flatMap fun t => t.indexes.map (t, ·)

def Table.names (t : Table) : String × String :=
  (t.schemaName, t.name)

def TableRecord.names (r : TableRecord) : String × String :=
  (r.schemaName, r.tableName)

/-- Table and column at both ends, the parent's first. -/
def Relationship.ends (r : Relationship) : (String × String) × (String × String) :=
  ((r.parentTable, r.parentColumn), (r.childTable, r.childColumn))

/-- Table and column at both ends, the parent's first. -/
def RelationshipRecord.ends (r : RelationshipRecord) : (String × String) × (String × String) :=
  ((r.parentTable, r.parentColumn), (r.childTable, r.childColumn))

/-- The record as if its table was never stamped and no flags were set. -/
def TableRecord.unmarked (r : TableRecord) : TableRecord :=
  { r with lastGenerated := none, flags := .standard }

attribute [ext] Metadata

namespace Metadata

/-- What can become of metadata, with the snapshots that were synced, the first ones first. -/
inductive Reachable : List Snapshot → Metadata → Prop where
  | start : Reachable [] .empty
  | sync {past : List Snapshot} {m : Metadata} (before : Reachable past m)
      (fresh : RecordKey → Uuid) (now : Instant) (s : Snapshot) (h : m.Fresh fresh s) :
      Reachable (past ++ [s]) (m.sync fresh now s).1
  | markGenerated {past : List Snapshot} {m m' : Metadata} (before : Reachable past m)
      (schema name : String) (time : Instant) (h : m.markGenerated schema name time = .ok m') :
      Reachable past m'
  | markAllGenerated {past : List Snapshot} {m m' : Metadata} (before : Reachable past m)
      (keys : List String) (time : Instant) (h : m.markAllGenerated keys time = .ok m') :
      Reachable past m'
  | setFlags {past : List Snapshot} {m : Metadata} (before : Reachable past m) (key : String)
      (flags : GenerationFlags) : Reachable past (m.setFlags key flags)

/-! ## Stamps and flags -/

/-- Nothing but stamps and flags of tables differs. -/
structure SameButMarks (m m' : Metadata) : Prop where
  tables : ∀ k : String, m'.tables[k]?.map (fun r => (r.id, r.names)) =
    m.tables[k]?.map fun r => (r.id, r.names)
  columns : m'.columns = m.columns
  indexes : m'.indexes = m.indexes
  relationships : m'.relationships = m.relationships

/-- All that differs are stamps and flags of tables. -/
structure Marked (m m' : Metadata) : Prop where
  tables : ∀ k : String, m'.tables[k]?.map TableRecord.unmarked =
    m.tables[k]?.map TableRecord.unmarked
  columns : m'.columns = m.columns
  indexes : m'.indexes = m.indexes
  relationships : m'.relationships = m.relationships

namespace Marked

variable {m m' m'' : Metadata}

theorem refl (m : Metadata) : Marked m m := ⟨fun _ => rfl, rfl, rfl, rfl⟩

theorem trans (h : Marked m m') (h' : Marked m' m'') : Marked m m'' :=
  ⟨fun k => (h'.tables k).trans (h.tables k), h'.columns.trans h.columns,
    h'.indexes.trans h.indexes, h'.relationships.trans h.relationships⟩

theorem stamp (m : Metadata) (key : String) (time : Instant) : Marked m (m.stamp key time) :=
  ⟨Filed.map_getElem?_modify (f := fun r : TableRecord => { r with lastGenerated := some time })
    (fun _ => rfl) key, rfl, rfl, rfl⟩

theorem setFlags (m : Metadata) (key : String) (flags : GenerationFlags) :
    Marked m (m.setFlags key flags) :=
  ⟨Filed.map_getElem?_modify (f := fun r : TableRecord => { r with flags := flags })
    (fun _ => rfl) key, rfl, rfl, rfl⟩

theorem of_markGenerated {schema name : String} {time : Instant}
    (h : m.markGenerated schema name time = .ok m') : Marked m m' := by
  rw [markGenerated] at h
  split at h
  · cases h
    exact stamp m _ time
  · cases h

theorem foldl_stamp (keys : List String) (time : Instant) (m : Metadata) :
    Marked m (keys.foldl (fun m key => m.stamp key time) m) := by
  induction keys generalizing m with
  | nil => exact .refl m
  | cons key keys ih => exact (stamp m key time).trans (ih _)

theorem of_markAllGenerated {keys : List String} {time : Instant}
    (h : m.markAllGenerated keys time = .ok m') : Marked m m' := by
  rw [markAllGenerated] at h
  split at h
  · cases h
  · cases h
    exact foldl_stamp keys time m

/-- What a table's record shows besides its marks, is shown as before. -/
theorem map_getElem?_tables {ν : Type} (h : Marked m m') (view : TableRecord → ν)
    (hview : ∀ r : TableRecord, view r.unmarked = view r) (k : String) :
    m'.tables[k]?.map view = m.tables[k]?.map view := by
  have hmap := congrArg (Option.map view) (h.tables k)
  rwa [Option.map_map, Option.map_map, funext hview (f := view ∘ TableRecord.unmarked)] at hmap

theorem sameButMarks (h : Marked m m') : SameButMarks m m' :=
  ⟨h.map_getElem?_tables _ fun _ => rfl, h.columns, h.indexes, h.relationships⟩

end Marked

namespace SameButMarks

variable {m m' : Metadata}

theorem idOf?_eq (h : SameButMarks m m') (k : String) : idOf? m'.tables k = idOf? m.tables k := by
  have := congrArg (Option.map Prod.fst) (h.tables k)
  rwa [Option.map_map, Option.map_map] at this

theorem owned (h : SameButMarks m m') (howned : Owned m) : Owned m' := by
  refine ⟨fun {k k' id} hk hk' => ?_, fun {k r} hr => ?_, fun {k r} hr => ?_⟩
  · rw [h.idOf?_eq] at hk hk'
    exact howned.idsDiffer hk hk'
  · rw [h.columns] at hr
    simpa only [h.idOf?_eq] using howned.column hr
  · rw [h.indexes] at hr
    simpa only [h.idOf?_eq] using howned.index hr

end SameButMarks

/-! ## Names -/

/-- Records are named as the first entities that were filed under their keys. -/
structure Named (past : List Snapshot) (m : Metadata) : Prop where
  tables : Filed.NamedBy Table.qualifiedName Table.names (past.flatMap Snapshot.tables)
    TableRecord.names m.tables
  columns : Filed.NamedBy (fun p => columnKey p.1 p.2) (fun p => p.2.name)
    (past.flatMap Snapshot.columns) ColumnRecord.columnName m.columns
  indexes : Filed.NamedBy (fun p => indexKey p.1 p.2) (fun p => p.2.name)
    (past.flatMap Snapshot.indexes) IndexRecord.indexName m.indexes
  relationships : Filed.NamedBy Relationship.key Relationship.ends
    (past.flatMap Snapshot.relationships) RelationshipRecord.ends m.relationships

theorem PartKind.Held.namedBy_sync {α β : Type} {K : PartKind α β} {fresh : RecordKey → Uuid}
    {now : Instant} {records : Metadata → Filed α} {s : Snapshot} {m : Metadata}
    {seen : List (Table × β)} (h : K.Held fresh records)
    (hnamed : Filed.NamedBy (fun p => K.key p.1 p.2) (fun p => K.partName p.2) seen K.recordName
      (records m)) :
    Filed.NamedBy (fun p => K.key p.1 p.2) (fun p => K.partName p.2) (seen ++ K.partsOf s.tables)
      K.recordName (records (m.sync fresh now s).1) :=
  hnamed.append <| h.map_getElem?_sync (fun p => K.partName p.2) K.recordName_new
    K.recordName_found K.recordName_switchOff

namespace Named

variable {past : List Snapshot} {m m' : Metadata}

theorem empty : Named [] .empty := ⟨.empty, .empty, .empty, .empty⟩

theorem of_sameButMarks (h : Named past m) (hsame : SameButMarks m m') : Named past m' := by
  refine ⟨h.tables.of_map_eq fun k => ?_, ?_, ?_, ?_⟩
  · have := congrArg (Option.map Prod.snd) (hsame.tables k)
    rwa [Option.map_map, Option.map_map] at this
  · rw [hsame.columns]
    exact h.columns
  · rw [hsame.indexes]
    exact h.indexes
  · rw [hsame.relationships]
    exact h.relationships

theorem sync (h : Named past m) (fresh : RecordKey → Uuid) (now : Instant) (s : Snapshot) :
    Named (past ++ [s]) (m.sync fresh now s).1 := by
  refine ⟨?_, ?_, ?_, ?_⟩
  · rw [List.flatMap_append, List.flatMap_singleton]
    exact h.tables.append <|
      map_getElem?_sync_tables (fun _ => rfl) (fun _ _ => rfl) (fun _ => rfl)
  · rw [List.flatMap_append, List.flatMap_singleton]
    exact (columns_held fresh).namedBy_sync h.columns
  · rw [List.flatMap_append, List.flatMap_singleton]
    exact (indexes_held fresh).namedBy_sync h.indexes
  · rw [List.flatMap_append, List.flatMap_singleton]
    exact h.relationships.append <|
      map_getElem?_sync_relationships (fun _ => rfl) (fun _ _ => rfl) (fun _ => rfl)

end Named

/-! ## Reachable metadata -/

/-- What syncs leave, the first ones first, with nothing but marks changed in between. Unlike in
reachable metadata, identities that are in use may be given out again. -/
inductive Syncs : List Snapshot → Metadata → Prop where
  | start : Syncs [] .empty
  | sync {past : List Snapshot} {m : Metadata} (before : Syncs past m) (fresh : RecordKey → Uuid)
      (now : Instant) (s : Snapshot) : Syncs (past ++ [s]) (m.sync fresh now s).1
  | mark {past : List Snapshot} {m m' : Metadata} (before : Syncs past m)
      (h : SameButMarks m m') : Syncs past m'

theorem Syncs.named {past : List Snapshot} {m : Metadata} (h : Syncs past m) : Named past m := by
  induction h with
  | start => exact .empty
  | sync _ fresh now s ih => exact ih.sync fresh now s
  | mark _ h ih => exact ih.of_sameButMarks h

namespace Reachable

variable {past : List Snapshot} {m : Metadata}

/-- What holds of nothing and is kept by syncs and marks, holds of reachable metadata. -/
theorem keeps {P : Metadata → Prop} (start : P .empty)
    (sync : ∀ {m : Metadata} (fresh : RecordKey → Uuid) (now : Instant) (s : Snapshot),
      m.Fresh fresh s → P m → P (m.sync fresh now s).1)
    (mark : ∀ {m m' : Metadata}, Marked m m' → P m → P m') (h : Reachable past m) : P m := by
  induction h with
  | start => exact start
  | sync _ fresh now s hfresh ih => exact sync fresh now s hfresh ih
  | markGenerated _ _ _ _ h ih => exact mark (.of_markGenerated h) ih
  | markAllGenerated _ _ _ h ih => exact mark (.of_markAllGenerated h) ih
  | setFlags _ key flags ih => exact mark (.setFlags _ key flags) ih

theorem owned (h : Reachable past m) : Owned m :=
  h.keeps .empty (fun _ _ _ hfresh ih => ih.sync hfresh) fun hmarked => hmarked.sameButMarks.owned

theorem syncs (h : Reachable past m) : Syncs past m := by
  induction h with
  | start => exact .start
  | sync _ fresh now s _ ih => exact ih.sync fresh now s
  | markGenerated _ _ _ _ h ih => exact ih.mark (Marked.of_markGenerated h).sameButMarks
  | markAllGenerated _ _ _ h ih => exact ih.mark (Marked.of_markAllGenerated h).sameButMarks
  | setFlags _ key flags ih => exact ih.mark (Marked.setFlags _ key flags).sameButMarks

theorem named (h : Reachable past m) : Named past m :=
  h.syncs.named

end Reachable

end Metadata

end SchemaCodegen
