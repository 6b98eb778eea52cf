import Mathlib.Data.List.Nodup
import SchemaCodegen.Generation.Context
import SchemaCodegen.Proofs.Fingerprint.Shape
import SchemaCodegen.Proofs.Metadata.Settling
import SchemaCodegen.Proofs.Snapshot.Names

/-!
# What stays the same of a table that is left out

A table that a sync does not report as changed has the structure that it had in the snapshot that
was synced before, whatever the metadata was, unless fingerprints collide. So what templates see of
it is the same but for what fingerprints leave out: the order of columns and indexes, conventions,
and relationships (`unreported_sameShape`). All of these can change without a report
(`Overlooked.overlooked`).
-/

namespace SchemaCodegen

/-! ## What templates see -/

/-- The column without what its convention decides. -/
def ColumnContext.bare (c : ColumnContext) : ColumnContext :=
  { c with
    convention := .none, conventionCode := none, isReadOnly := c.isComputed,
    excludedFromUpdate := c.isComputed || c.isIdentity }

namespace TableContext

/-- The structure is the same. -/
structure SameShape (c c' : TableContext) : Prop where
  name : c.name = c'.name
  schema : c.schema = c'.schema
  primaryKeyColumns : c.primaryKeyColumns = c'.primaryKeyColumns
  columns : (c.columns.map ColumnContext.bare).Perm (c'.columns.map ColumnContext.bare)
  indexes : c.indexes.Perm c'.indexes

/-- What is no part of the structure is the same. -/
structure SameRest (c c' : TableContext) : Prop where
  columnOrder : c.columns.map ColumnContext.name = c'.columns.map ColumnContext.name
  conventions : c.columns.map ColumnContext.convention = c'.columns.map ColumnContext.convention
  indexOrder : c.indexes.map Index.name = c'.indexes.map Index.name
  parents : c.parents = c'.parents
  children : c.children = c'.children

end TableContext

/-- A permutation that leaves the different keys in their places moves nothing. -/
theorem eq_of_perm_of_map_eq {α β : Type} (key : α → β) {l l' : List α} (hperm : l.Perm l')
    (hmap : l.map key = l'.map key) (hnodup : (l.map key).Nodup) : l = l' := by
  refine List.ext_getElem hperm.length_eq fun n h h' => ?_
  have hkey : key l[n] = key l'[n] := by
    have hat := congrArg (·[n]?) hmap
    simpa [h, h'] using hat
  exact List.inj_on_of_nodup_map hnodup (List.getElem_mem h)
    (hperm.mem_iff.2 (List.getElem_mem h')) hkey

/-- A bare column with what a convention decides. -/
def ColumnContext.under (convention : Convention) (c : ColumnContext) : ColumnContext :=
  { c with
    convention := convention, conventionCode := convention.code?,
    isReadOnly := convention.isReadOnly || c.isComputed,
    excludedFromUpdate := convention.isExcludedFromUpdate || c.isComputed || c.isIdentity }

namespace TableContext

variable {rules : Convention.Resolver} {s s' : Snapshot} {t t' : Table}

theorem map_bare_columns (rules : Convention.Resolver) (s : Snapshot) (t : Table) :
    (build rules s t).columns.map ColumnContext.bare =
      (t.columns.map Column.bare).map fun c => (ColumnContext.of .none c).bare := by
  rw [build, List.map_map, List.map_map]
  rfl

theorem map_name_columns (rules : Convention.Resolver) (s : Snapshot) (t : Table) :
    (build rules s t).columns.map ColumnContext.name = t.columns.map Column.name := by
  rw [build, List.map_map]
  rfl

theorem sameShape_build (h : t.SameShape t') (rules : Convention.Resolver) (s s' : Snapshot) :
    SameShape (build rules s t) (build rules s' t') := by
  refine ⟨h.name, h.schemaName, h.primaryKeyColumns, ?_, h.indexes⟩
  rw [map_bare_columns, map_bare_columns]
  exact h.columns.map _

theorem zipWith_under_columns (rules : Convention.Resolver) (s : Snapshot) (t : Table) :
    List.zipWith ColumnContext.under ((build rules s t).columns.map ColumnContext.convention)
      ((build rules s t).columns.map ColumnContext.bare) = (build rules s t).columns := by
  rw [build, List.map_map, List.map_map, List.zipWith_map, List.zipWith_self]
  rfl

theorem eq_of_sameShape_of_sameRest {c c' : TableContext} (hshape : SameShape c c')
    (hrest : SameRest c c') (hcolumns : c.columns = c'.columns)
    (hindexes : c.indexes = c'.indexes) : c = c' := by
  cases c
  cases c'
  exact TableContext.mk.injEq .. ▸ ⟨hshape.name, hshape.schema, hcolumns,
    hshape.primaryKeyColumns, hindexes, hrest.parents, hrest.children⟩

theorem build_eq_iff_sameRest (h : t.SameShape t') (hcolumns : (t.columns.map Column.name).Nodup)
    (hindexes : (t.indexes.map Index.name).Nodup) :
    build rules s t = build rules s' t' ↔ SameRest (build rules s t) (build rules s' t') := by
  refine ⟨fun heq => heq ▸ ⟨rfl, rfl, rfl, rfl, rfl⟩, fun hrest => ?_⟩
  have hshape := sameShape_build h rules s s'
  have hbare : (build rules s t).columns.map ColumnContext.bare =
      (build rules s' t').columns.map ColumnContext.bare := by
    refine eq_of_perm_of_map_eq ColumnContext.name hshape.columns ?_ ?_
    · rw [List.map_map, List.map_map]
      exact hrest.columnOrder
    · rw [List.map_map]
      exact (map_name_columns rules s t).symm ▸ hcolumns
  refine eq_of_sameShape_of_sameRest hshape hrest ?_ ?_
  · rw [← zipWith_under_columns rules s t, ← zipWith_under_columns rules s' t', hbare,
      hrest.conventions]
  · exact eq_of_perm_of_map_eq Index.name hshape.indexes hrest.indexOrder hindexes

end TableContext

/-! ## Tables that a sync does not report -/

namespace Metadata

variable {fresh : RecordKey → Uuid} {now : Instant} {s s' : Snapshot} {m : Metadata} {t : Table}

/-- After a sync the record under a table's key holds the fingerprint of a table of the snapshot
with this key. -/
theorem of_getElem?_sync_of_mem (ht : t ∈ s.tables) {r : TableRecord}
    (hr : (m.sync fresh now s).1.tables[t.qualifiedName]? = some r) :
    ∃ u ∈ s.tables, u.qualifiedName = t.qualifiedName ∧ r.hash.current = Fingerprint.ofTable u := by
  rw [sync_tables] at hr
  obtain ⟨r', hr', -, hhash⟩ := of_getElem?_retireTables hr
  rw [foldl_step_tables] at hr'
  rcases Filed.of_getElem?_foldl_file hr' with ⟨u, hu, hkey, found?, rfl⟩ | ⟨habsent, -⟩
  · exact ⟨u, hu, hkey, hhash ▸ current_syncedRecord found?⟩
  · exact absurd (List.mem_map_of_mem ht) habsent

/-- A table that is not reported has the fingerprint of one that was seen before under its key, in
the snapshot that was synced before or in front of it in its own. -/
theorem exists_seen_of_not_changed {fresh' : RecordKey → Uuid} {now' : Instant} {t' : Table}
    {before after : List Table} (ht : t ∈ s.tables) (hsplit : s'.tables = before ++ t' :: after)
    (hkey : t.qualifiedName = t'.qualifiedName)
    (h : ((m.sync fresh now s).1.sync fresh' now' s').2.isChanged t'.name = false) :
    ∃ u, (u ∈ s.tables ∨ u ∈ before) ∧ Fingerprint.ofTable u = Fingerprint.ofTable t' := by
  have hnews : ¬ (t'.name ∈ ((m.sync fresh now s).1.sync fresh' now' s').2.newTables ∨
      t'.name ∈ ((m.sync fresh now s).1.sync fresh' now' s').2.modifiedTables) := by
    simpa [SyncResult.isChanged] using h
  rw [sync_newTables, sync_modifiedTables, hsplit] at hnews
  obtain ⟨r, hr, hcurrent⟩ := current_of_not_reported hnews
  rw [foldl_step_tables] at hr
  rcases Filed.of_getElem?_foldl_file hr with ⟨u, hu, -, found?, rfl⟩ | ⟨-, hr⟩
  · exact ⟨u, .inr hu, (current_syncedRecord found?).symm.trans hcurrent⟩
  · rw [← hkey] at hr
    obtain ⟨u, hu, -, hsame⟩ := of_getElem?_sync_of_mem ht hr
    exact ⟨u, .inl hu, hsame.symm.trans hcurrent⟩

/-- Fingerprints of these tables are the same only for the same text. -/
def CollisionFree (ts : List Table) : Prop :=
  ∀ t ∈ ts, ∀ t' ∈ ts, Fingerprint.ofTable t = Fingerprint.ofTable t' →
    (Fingerprint.tableShape t).compact = (Fingerprint.tableShape t').compact

instance (ts : List Table) : Decidable (CollisionFree ts) :=
  inferInstanceAs (Decidable (∀ t ∈ ts, ∀ t' ∈ ts, _ → _))

section Unreported

variable {fresh' : RecordKey → Uuid} {now' : Instant} {t' : Table}
    (hs : s.defect? = none) (hs' : s'.defect? = none)
    (hfree : CollisionFree (s.tables ++ s'.tables)) (ht : t ∈ s.tables) (ht' : t' ∈ s'.tables)
    (hschema : t.schemaName = t'.schemaName) (hname : t.name = t'.name)
    (h : ((m.sync fresh now s).1.sync fresh' now' s').2.isChanged t'.name = false)

include hs hs' hfree ht ht' hschema hname h

/-- A table that is not reported has the structure that it had before. -/
theorem sameShape_of_not_changed : t'.SameShape t := by
  obtain ⟨before, after, hsplit⟩ := List.append_of_mem ht'
  have hkey : t.qualifiedName = t'.qualifiedName := by
    rw [← tableKey_qualifiedName, hschema, hname, tableKey_qualifiedName]
  obtain ⟨u, hu, hsame⟩ := exists_seen_of_not_changed ht hsplit hkey h
  have hmem : u ∈ s.tables ++ s'.tables := by
    rw [hsplit, List.mem_append, List.mem_append]
    exact hu.imp_right .inl
  have hshape := Fingerprint.sameShape_of_compact_eq
    (hfree t' (List.mem_append_right _ ht') u hmem hsame.symm)
  -- two keys may be the same text, but tables of one structure have one name
  rcases hu with hu | hu
  · have hut := List.inj_on_of_nodup_map (Snapshot.nodup_tableNames hs) hu ht
      (hshape.name.symm.trans hname.symm)
    exact hut ▸ hshape
  · have hnames := Snapshot.nodup_tableNames hs'
    rw [hsplit, List.map_append, List.map_cons, List.nodup_append] at hnames
    exact absurd hshape.name.symm
      (hnames.2.2 _ (List.mem_map_of_mem hu) _ List.mem_cons_self)

/-- What templates see of a table that is not reported as changed is what they saw before, but for
the order of columns and indexes, conventions and relationships; it is all the same exactly if
these are. -/
theorem unreported_sameShape (rules : Convention.Resolver) :
    (TableContext.build rules s' t').SameShape (.build rules s t) ∧
      (TableContext.build rules s' t' = .build rules s t ↔
        (TableContext.build rules s' t').SameRest (.build rules s t)) := by
  have hshape := sameShape_of_not_changed hs hs' hfree ht ht' hschema hname h
  exact ⟨TableContext.sameShape_build hshape rules s' s,
    TableContext.build_eq_iff_sameRest hshape (Snapshot.nodup_columnNames hs' ht')
      (Snapshot.nodup_indexNames hs' ht')⟩

end Unreported

/-! ### Changes that are not reported -/

theorem collisionFree_of_tableShape_eq {ts : List Table}
    (h : ∀ u ∈ ts, Fingerprint.tableShape u = Fingerprint.tableShape t) : CollisionFree ts := by
  intro u hu u' hu' _
  rw [h u hu, h u' hu']

/-- A table that stands alone is not reported if its record holds its fingerprint. -/
theorem isChanged_eq_false_of_current (hs : s.tables = [t]) {r : TableRecord}
    (hr : m.tables[t.qualifiedName]? = some r) (hcurrent : r.hash.current = Fingerprint.ofTable t) :
    (m.sync fresh now s).2.isChanged t.name = false := by
  rw [SyncResult.isChanged, sync_newTables, sync_modifiedTables, hs, List.foldl_cons,
    List.foldl_nil, step_newTables, step_modifiedTables, news_eq]
  simp [hr, hcurrent]

namespace Overlooked

def column (name : String) (convention : Convention) : Column :=
  ⟨name, "int", none, none, none, false, false, false, false, false, none, none, convention, ∅⟩

def index (name column : String) : Index :=
  ⟨name, false, false, [column], none, []⟩

def table (columns : List Column) (indexes : List Index) : Table :=
  ⟨"T", "dbo", columns, indexes, ["a"]⟩

def snapshot (t : Table) (relationships : List Relationship) : Snapshot :=
  ⟨"db", "server", "1", default, [t], relationships⟩

def plain : Table :=
  table [column "a" .none, column "b" .none] [index "IX_a" "a", index "IX_b" "b"]

def original : Snapshot :=
  snapshot plain []

def converted : Table :=
  table [column "a" .lookup, column "b" .none] plain.indexes

/-- Another order of columns or of indexes, another convention, a new relationship. -/
def variants : List (Table × List Relationship) :=
  [(table plain.columns.reverse plain.indexes, []), (table plain.columns plain.indexes.reverse, []),
    (converted, []),
    (plain, [⟨"FK_b", "T", "a", "T", "b", .oneToMany, "NO ACTION", "NO ACTION"⟩])]

/-- What a sync of a table reports behind one of the original. -/
def report (v : Table × List Relationship) : SyncResult :=
  ((Metadata.empty.sync (fun _ => default) default original).1.sync (fun _ => default) default
    (snapshot v.1 v.2)).2

theorem sameShape_of_mem : ∀ v ∈ variants, plain.SameShape v.1 := by
  decide

theorem tableShape_of_mem {v : Table × List Relationship} (hv : v ∈ variants) :
    Fingerprint.tableShape v.1 = Fingerprint.tableShape plain :=
  (Fingerprint.tableShape_eq_of_sameShape (sameShape_of_mem v hv) (by decide) (by decide)).symm

theorem isChanged_of_mem {v : Table × List Relationship} (hv : v ∈ variants) :
    (report v).isChanged v.1.name = false := by
  have hkey : plain.qualifiedName = v.1.qualifiedName := by
    rw [← tableKey_qualifiedName, (sameShape_of_mem v hv).name, (sameShape_of_mem v hv).schemaName,
      tableKey_qualifiedName]
  have hr := getElem?_sync_tables_of_mem (fun _ => default) default (m := .empty) (s := original)
    (List.nodup_singleton _) List.mem_cons_self
  rw [hkey] at hr
  refine isChanged_eq_false_of_current rfl hr ?_
  rw [current_syncedRecord, Fingerprint.ofTable, Fingerprint.ofTable, tableShape_of_mem hv]

theorem converted_mem : (converted, []) ∈ variants := by
  decide

def after : Snapshot :=
  snapshot converted []

theorem collisionFree_after : CollisionFree (original.tables ++ after.tables) := by
  refine collisionFree_of_tableShape_eq (t := plain) fun u hu => ?_
  rcases List.mem_cons.1 hu with rfl | hu
  · rfl
  · rw [List.mem_singleton.1 hu, tableShape_of_mem converted_mem]

theorem unreported_after : original.defect? = none ∧ after.defect? = none ∧
    CollisionFree (original.tables ++ after.tables) ∧ plain ∈ original.tables ∧
    converted ∈ after.tables ∧ (report (converted, [])).isChanged converted.name = false ∧
      (TableContext.build .standard after converted).SameShape (.build .standard original plain) ∧
      (TableContext.build .standard after converted = .build .standard original plain ↔
        (TableContext.build .standard after converted).SameRest
          (.build .standard original plain)) := by
  have hplain : plain ∈ original.tables := List.mem_cons_self
  have hconverted : converted ∈ after.tables := List.mem_cons_self
  have hunchanged := isChanged_of_mem converted_mem
  exact ⟨by decide, by decide, collisionFree_after, hplain, hconverted, hunchanged,
    unreported_sameShape (by decide) (by decide) collisionFree_after hplain hconverted rfl rfl
      hunchanged .standard⟩

theorem build_ne_of_mem : ∀ v ∈ variants, (snapshot v.1 v.2).defect? = none ∧
    TableContext.build .standard (snapshot v.1 v.2) v.1 ≠ .build .standard original plain := by
  decide

/-- None of the variants is reported, and templates see each of them. -/
theorem overlooked : original.defect? = none ∧ original.tables = [plain] ∧
    ∀ v ∈ variants, (snapshot v.1 v.2).defect? = none ∧ v.1.schemaName = plain.schemaName ∧
      v.1.name = plain.name ∧ (report v).isChanged v.1.name = false ∧
        TableContext.build .standard (snapshot v.1 v.2) v.1 ≠ .build .standard original plain := by
  refine ⟨by decide, rfl, fun v hv => ?_⟩
  have hshape := sameShape_of_mem v hv
  exact ⟨(build_ne_of_mem v hv).1, hshape.schemaName.symm, hshape.name.symm, isChanged_of_mem hv,
    (build_ne_of_mem v hv).2⟩

end Overlooked

end Metadata

end SchemaCodegen
