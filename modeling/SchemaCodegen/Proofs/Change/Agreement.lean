import SchemaCodegen.Proofs.Change.Exactness
import SchemaCodegen.Proofs.Generation.Skipping
import SchemaCodegen.Proofs.Metadata.Distinctness
import SchemaCodegen.Proofs.Metadata.Reporting

/-!
# Changes between snapshots and what a sync reports

There are two ways to learn what became of a schema: comparing the snapshots, which matches tables
by name and compares a part of their columns, and syncing one after the other, which files tables
under schema and name and compares fingerprints of all that they are. `sync_agreesWith` says how the
two answers go together: a table that moved to another schema is the same table for the comparison,
and for the sync an old one that is gone and a new one; everything else that is compared shows in
the sync.
-/

namespace SchemaCodegen

theorem KeysTell.qualifiedName_not_mem_iff {t : Table} {ts : List Table} (h : KeysTell (t :: ts))
    (hnames : (ts.map Table.name).Nodup) : t.qualifiedName ∉ ts.map Table.qualifiedName ↔
      t.name ∉ ts.map Table.name ∨ ∃ t' ∈ ts, t'.name = t.name ∧ t'.schemaName ≠ t.schemaName := by
  have hkey : ∀ t' ∈ ts, t'.qualifiedName = t.qualifiedName ↔ t'.names = t.names := fun t' ht' =>
    h.qualifiedName_eq_iff (List.mem_cons_of_mem _ ht') List.mem_cons_self
  constructor
  · intro hmissing
    refine or_iff_not_imp_left.2 fun hname => ?_
    obtain ⟨t', ht', hname⟩ := List.mem_map.1 (not_not.1 hname)
    refine ⟨t', ht', hname, fun hschema => hmissing (List.mem_map.2 ⟨t', ht', ?_⟩)⟩
    exact (hkey t' ht').2 (Prod.ext hschema hname)
  · intro hgone hmem
    obtain ⟨t', ht', hsame⟩ := List.mem_map.1 hmem
    obtain ⟨hschema, hname⟩ := Prod.mk.inj ((hkey t' ht').1 hsame)
    rcases hgone with hgone | ⟨t'', ht'', hname', hschema'⟩
    · exact hgone (List.mem_map.2 ⟨t', ht', hname⟩)
    · obtain rfl := List.inj_on_of_nodup_map hnames ht' ht'' (hname.trans hname'.symm)
      exact hschema' hschema

namespace Changes

/-- The names of the tables that were added, or of those that were removed. -/
def tableNames (kind : ChangeKind) (changes : Changes) : List String :=
  (changes.tables.filter (·.kind = kind)).map TableChange.tableName

/-- The names of the tables that both snapshots have, in different schemas. -/
def movedTables (old new : Snapshot) : List String :=
  (new.tables.filter fun t =>
    old.tables.any fun o => o.name == t.name && o.schemaName != t.schemaName).map Table.name

/-- What a sync reports tells the same as the changes, and which tables moved. -/
structure AgreesWith (changes : Changes) (moved : List String) (r : SyncResult) : Prop where
  newTables : r.newTables.Perm (changes.tableNames .added ++ moved)
  deactivatedTables : r.deactivatedTables.Perm (changes.tableNames .removed ++ moved)
  columns : ∀ c ∈ changes.columns, r.isChanged c.tableName
  indexes : ∀ c ∈ changes.indexes, r.isChanged c.tableName

/-! ## Tables -/

section Tables

variable {old new : Snapshot} {changes : Changes} {name : String}

theorem mem_movedTables : name ∈ movedTables old new ↔
    ∃ o ∈ old.tables, ∃ n ∈ new.tables, o.name = name ∧ n.name = name ∧
      o.schemaName ≠ n.schemaName := by
  simp only [movedTables, List.mem_map, List.mem_filter, List.any_eq_true, Bool.and_eq_true,
    beq_iff_eq, bne_iff_ne]
  constructor
  · rintro ⟨n, ⟨hn, o, ho, hname, hschema⟩, rfl⟩
    exact ⟨o, ho, n, hn, hname, rfl, hschema⟩
  · rintro ⟨o, ho, n, hn, rfl, hname, hschema⟩
    exact ⟨n, ⟨hn, o, ho, hname.symm, hschema⟩, hname⟩

theorem nodup_movedTables (hnew : new.defect? = Option.none) : (movedTables old new).Nodup :=
  (Snapshot.nodup_tableNames hnew).sublist (List.filter_sublist.map _)

namespace Exact

variable (h : Exact old new changes)

include h

theorem mem_tableNames_added : name ∈ changes.tableNames .added ↔
    name ∈ new.tables.map Table.name ∧ name ∉ old.tables.map Table.name := by
  simp only [tableNames, List.mem_map, List.mem_filter, decide_eq_true_eq, h.mem_tables]
  constructor
  · rintro ⟨_, ⟨⟨mem, absent⟩ | _, hkind⟩, rfl⟩
    · exact ⟨⟨_, mem, rfl⟩, fun h => absent (List.mem_map.2 h)⟩
    · cases hkind
  · rintro ⟨⟨t, ht, rfl⟩, absent⟩
    exact ⟨tableAdded t, ⟨.added ht fun h => absent (List.mem_map.1 h), rfl⟩, rfl⟩

theorem mem_tableNames_removed : name ∈ changes.tableNames .removed ↔
    name ∈ old.tables.map Table.name ∧ name ∉ new.tables.map Table.name := by
  simp only [tableNames, List.mem_map, List.mem_filter, decide_eq_true_eq, h.mem_tables]
  constructor
  · rintro ⟨_, ⟨_ | ⟨mem, absent⟩, hkind⟩, rfl⟩
    · cases hkind
    · exact ⟨⟨_, mem, rfl⟩, fun h => absent (List.mem_map.2 h)⟩
  · rintro ⟨⟨t, ht, rfl⟩, absent⟩
    exact ⟨tableRemoved t, ⟨.removed ht fun h => absent (List.mem_map.1 h), rfl⟩, rfl⟩

theorem nodup_tableNames (kind : ChangeKind) : (changes.tableNames kind).Nodup :=
  h.nodup_tables.sublist (List.filter_sublist.map _)

theorem nodup_added_append_moved (hnew : new.defect? = Option.none) :
    (changes.tableNames .added ++ movedTables old new).Nodup := by
  refine (h.nodup_tableNames .added).append (nodup_movedTables hnew) fun name hadded hmoved => ?_
  obtain ⟨o, ho, -, -, rfl, -⟩ := mem_movedTables.1 hmoved
  exact (h.mem_tableNames_added.1 hadded).2 (List.mem_map_of_mem ho)

theorem nodup_removed_append_moved (hnew : new.defect? = Option.none) :
    (changes.tableNames .removed ++ movedTables old new).Nodup := by
  refine (h.nodup_tableNames .removed).append (nodup_movedTables hnew) fun name hgone hmoved => ?_
  obtain ⟨-, -, n, hn, -, rfl, -⟩ := mem_movedTables.1 hmoved
  exact (h.mem_tableNames_removed.1 hgone).2 (List.mem_map_of_mem hn)

end Exact

end Tables

/-! ## Columns and indexes -/

/-- All that is compared is left in bare columns. -/
theorem Aspect.not_differs_of_bare_eq {c c' : Column} (h : c.bare = c'.bare) (a : Aspect) :
    ¬ a.Differs c c' := by
  simp only [Column.bare, Column.mk.injEq] at h
  cases a <;> simp [Differs, h]

theorem tablesAlike_of_sameShape {old new : Table} (h : old.SameShape new)
    (hold : (old.columns.map Column.name).Nodup) : TablesAlike old new := by
  have hnames : ∀ t : Table, (t.columns.map Column.bare).map Column.name =
      t.columns.map Column.name := fun t => by rw [List.map_map]; rfl
  refine ⟨fun name => ?_, fun c hc c' hc' hname a ha => ?_,
    fun name => (h.indexes.map Index.name).mem_iff⟩
  · rw [← hnames old, ← hnames new]
    exact (h.columns.map Column.name).mem_iff
  · have hmem' : c'.bare ∈ old.columns.map Column.bare :=
      h.columns.mem_iff.2 (List.mem_map_of_mem hc')
    obtain ⟨c'', hc'', hbare⟩ := List.mem_map.1 hmem'
    obtain rfl := List.inj_on_of_nodup_map hold hc hc'' <| by
      simp only [Column.bare, Column.mk.injEq] at hbare
      rw [hname, hbare.1]
    exact Aspect.not_differs_of_bare_eq hbare a ha

theorem TablesAlike.not_columnChange {old new : Table} (h : TablesAlike old new) {table : String}
    {c : ColumnChange} : ¬ (Turnover Column.name (columnAdded table) (columnRemoved table)
      old.columns new.columns c ∨ Modification old new c) := by
  rintro (hturnover | ⟨hc, hc', hsame, ha⟩)
  · exact (forall_not_turnover_iff ..).2 h.columnNames c hturnover
  · exact h.columns _ hc _ hc' hsame _ ha

end Changes

/-! ## One sync after the other -/

namespace Metadata

open Changes hiding none

section Both

variable {fresh fresh' : RecordKey → Uuid} {now now' : Instant} {old new : Snapshot}

theorem getElem?_sync_empty_eq_none_iff {k : String}
    (hkeys : (old.tables.map Table.qualifiedName).Nodup) :
    (Metadata.empty.sync fresh now old).1.tables[k]? = none ↔
      k ∉ old.tables.map Table.qualifiedName := by
  have hperm : (Metadata.empty.sync fresh now old).1.tables.keys.Perm _ :=
    keys_sync_empty_tables hkeys
  rw [← hperm.mem_iff, Std.ExtTreeMap.mem_keys, Std.ExtTreeMap.mem_iff_isSome_getElem?,
    Bool.not_eq_true, Option.isSome_eq_false_iff, Option.isNone_iff_eq_none]

theorem of_getElem?_sync_empty {k : String} {r : TableRecord}
    (hkeys : (old.tables.map Table.qualifiedName).Nodup)
    (hr : (Metadata.empty.sync fresh now old).1.tables[k]? = some r) :
    ∃ o ∈ old.tables, o.qualifiedName = k ∧ r.tableName = o.name ∧ r.isActive = true := by
  have hk : k ∈ old.tables.map Table.qualifiedName := by
    by_contra hk
    rw [(getElem?_sync_empty_eq_none_iff hkeys).2 hk] at hr
    cases hr
  obtain ⟨o, ho, rfl⟩ := List.mem_map.1 hk
  rw [getElem?_sync_tables_of_mem fresh now hkeys ho] at hr
  cases hr
  exact ⟨o, ho, rfl, rfl, rfl⟩

variable (fresh fresh' now now') (hold : old.defect? = none) (hnew : new.defect? = none)
    (hkeys : KeysTell (old.tables ++ new.tables))

include hold hnew hkeys

/-- New are the tables that the comparison finds added, and those that moved. -/
theorem newTables_perm :
    ((Metadata.empty.sync fresh now old).1.sync fresh' now' new).2.newTables.Perm
      ((since (some old) new).tableNames .added ++ movedTables old new) := by
  have hexact := (exact_since hold hnew).1
  have hkeysOld := (hkeys.mono (List.subset_append_left ..)).nodup_qualifiedNames hold
  have hkeysNew := (hkeys.mono (List.subset_append_right ..)).nodup_qualifiedNames hnew
  refine (List.perm_ext_iff_of_nodup ?_ (hexact.nodup_added_append_moved hnew)).2 fun name => ?_
  · rw [newTables_eq hkeysNew]
    exact (Snapshot.nodup_tableNames hnew).sublist (List.filter_sublist.map _)
  rw [mem_newTables hkeysNew, List.mem_append, hexact.mem_tableNames_added, mem_movedTables]
  simp only [getElem?_sync_empty_eq_none_iff hkeysOld]
  have hsplit : ∀ t ∈ new.tables, t.qualifiedName ∉ old.tables.map Table.qualifiedName ↔ _ :=
    fun t ht => KeysTell.qualifiedName_not_mem_iff
      (hkeys.mono (List.cons_subset.2 ⟨List.mem_append_right _ ht, List.subset_append_left ..⟩))
      (Snapshot.nodup_tableNames hold)
  constructor
  · rintro ⟨t, ht, hmissing, rfl⟩
    rcases (hsplit t ht).1 hmissing with hname | ⟨o, ho, hname, hschema⟩
    · exact .inl ⟨List.mem_map_of_mem ht, hname⟩
    · exact .inr ⟨o, ho, t, ht, hname, rfl, hschema⟩
  · rintro (⟨hname, habsent⟩ | ⟨o, ho, t, ht, hname, rfl, hschema⟩)
    · obtain ⟨t, ht, rfl⟩ := List.mem_map.1 hname
      exact ⟨t, ht, (hsplit t ht).2 (.inl habsent), rfl⟩
    · exact ⟨t, ht, (hsplit t ht).2 (.inr ⟨o, ho, hname, hschema⟩), rfl⟩

/-- Gone are the tables that the comparison finds removed, and those that moved. -/
theorem deactivatedTables_perm :
    ((Metadata.empty.sync fresh now old).1.sync fresh' now' new).2.deactivatedTables.Perm
      ((since (some old) new).tableNames .removed ++ movedTables old new) := by
  have hexact := (exact_since hold hnew).1
  have hkeysOld := (hkeys.mono (List.subset_append_left ..)).nodup_qualifiedNames hold
  refine (List.perm_ext_iff_of_nodup (nodup_deactivatedTables ?_)
    (hexact.nodup_removed_append_moved hnew)).2 fun name => ?_
  · intro key key' r r' hr hr' _ _ hname
    obtain ⟨o, ho, rfl, hnameO, -⟩ := of_getElem?_sync_empty hkeysOld hr
    obtain ⟨o', ho', rfl, hnameO', -⟩ := of_getElem?_sync_empty hkeysOld hr'
    rw [List.inj_on_of_nodup_map (Snapshot.nodup_tableNames hold) ho ho'
      (hnameO.symm.trans (hname.trans hnameO'))]
  rw [mem_deactivatedTables, List.mem_append, hexact.mem_tableNames_removed, mem_movedTables]
  have hsplit : ∀ o ∈ old.tables, o.qualifiedName ∉ new.tables.map Table.qualifiedName ↔ _ :=
    fun o ho => KeysTell.qualifiedName_not_mem_iff
      (hkeys.mono (List.cons_subset.2 ⟨List.mem_append_left _ ho, List.subset_append_right ..⟩))
      (Snapshot.nodup_tableNames hnew)
  constructor
  · rintro ⟨key, r, hr, -, hmissing, rfl⟩
    obtain ⟨o, ho, rfl, hnameO, -⟩ := of_getElem?_sync_empty hkeysOld hr
    rw [hnameO]
    rcases (hsplit o ho).1 hmissing with hname | ⟨n, hn, hname, hschema⟩
    · exact .inl ⟨List.mem_map_of_mem ho, hname⟩
    · exact .inr ⟨o, ho, n, hn, rfl, hname, hschema.symm⟩
  · intro hname
    obtain ⟨o, ho, rfl, hmissing⟩ : ∃ o ∈ old.tables, o.name = name ∧
        o.qualifiedName ∉ new.tables.map Table.qualifiedName := by
      rcases hname with ⟨hname, habsent⟩ | ⟨o, ho, n, hn, rfl, hname, hschema⟩
      · obtain ⟨o, ho, rfl⟩ := List.mem_map.1 hname
        exact ⟨o, ho, rfl, (hsplit o ho).2 (.inl habsent)⟩
      · exact ⟨o, ho, rfl, (hsplit o ho).2 (.inr ⟨n, hn, hname, hschema.symm⟩)⟩
    exact ⟨o.qualifiedName, _, getElem?_sync_tables_of_mem fresh now hkeysOld ho, rfl, hmissing,
      rfl⟩

/-- Two tables of one name are alike in what is compared, unless the sync reports the later one. -/
theorem tablesAlike_of_not_changed (hfree : CollisionFree (old.tables ++ new.tables)) {o n : Table}
    (ho : o ∈ old.tables) (hn : n ∈ new.tables) (hname : o.name = n.name)
    (h : ((Metadata.empty.sync fresh now old).1.sync fresh' now' new).2.isChanged n.name = false) :
    TablesAlike o n := by
  have hschema : o.schemaName = n.schemaName := by
    by_contra hschema
    have hmoved : n.name ∈ movedTables old new :=
      mem_movedTables.2 ⟨o, ho, n, hn, hname, rfl, hschema⟩
    have hnews := (newTables_perm fresh fresh' now now' hold hnew hkeys).mem_iff.2
      (List.mem_append_right _ hmoved)
    simp [SyncResult.isChanged, hnews] at h
  have hshape := sameShape_of_not_changed hold hnew hfree ho hn hschema hname h
  refine tablesAlike_of_sameShape ⟨hshape.name.symm, hshape.schemaName.symm,
    hshape.primaryKeyColumns.symm, hshape.columns.symm, hshape.indexes.symm⟩ ?_
  exact Snapshot.nodup_columnNames hold ho

end Both

/-- A sync after that of another snapshot reports the changes between the two, with the tables that
moved to other schemas as new and as gone. -/
theorem sync_agreesWith (fresh fresh' : RecordKey → Uuid) (now now' : Instant) {old new : Snapshot}
    (hold : old.defect? = none) (hnew : new.defect? = none)
    (hkeys : KeysTell (old.tables ++ new.tables))
    (hfree : CollisionFree (old.tables ++ new.tables)) :
    (since (some old) new).AgreesWith (movedTables old new)
      ((Metadata.empty.sync fresh now old).1.sync fresh' now' new).2 := by
  have hexact := (exact_since hold hnew).1
  refine ⟨newTables_perm _ _ _ _ hold hnew hkeys, deactivatedTables_perm _ _ _ _ hold hnew hkeys,
    fun c hc => ?_, fun c hc => ?_⟩
  · obtain ⟨o, ho, n, hn, hname, hchange⟩ := hexact.mem_columns.1 hc
    have htable : c.tableName = n.name := by
      rcases hchange with (_ | _) | ⟨_, _, _, _⟩ <;> rfl
    rw [htable]
    by_contra hchanged
    exact (tablesAlike_of_not_changed _ _ _ _ hold hnew hkeys hfree ho hn hname
      (Bool.not_eq_true _ ▸ hchanged)).not_columnChange hchange
  · obtain ⟨o, ho, n, hn, hname, hchange⟩ := hexact.mem_indexes.1 hc
    have htable : c.tableName = n.name := by
      rcases hchange with _ | _ <;> rfl
    rw [htable]
    by_contra hchanged
    have halike := tablesAlike_of_not_changed _ _ _ _ hold hnew hkeys hfree ho hn hname
      (Bool.not_eq_true _ ▸ hchanged)
    exact (forall_not_turnover_iff ..).2 halike.indexNames c hchange

/-! ### A table that moves to another schema and loses an index -/

namespace Relocated

def table (schema : String) (indexes : List Index) : Table :=
  ⟨"T", schema, [], indexes, []⟩

def before : Snapshot :=
  Sample.snapshot [table "dbo" [⟨"I", false, false, [], none, []⟩]]

def after : Snapshot :=
  Sample.snapshot [table "app" []]

set_option maxRecDepth 100000 in
theorem collisionFree : CollisionFree (before.tables ++ after.tables) := by
  decide +kernel

theorem sync_agreesWith_after : before.defect? = none ∧ after.defect? = none ∧
    KeysTell (before.tables ++ after.tables) ∧ CollisionFree (before.tables ++ after.tables) ∧
    (since (some before) after).AgreesWith (movedTables before after)
      ((Metadata.empty.sync (fun _ => default) default before).1.sync (fun _ => default) default
        after).2 :=
  ⟨by decide, by decide, by decide, collisionFree,
    sync_agreesWith _ _ _ _ (by decide) (by decide) (by decide) collisionFree⟩

example : (since (some before) after).tables = [] ∧ movedTables before after = ["T"] ∧
    (since (some before) after).indexes.map (fun c => (c.kind, c.tableName)) =
      [(.removed, "T")] := by
  decide

end Relocated

end Metadata

end SchemaCodegen
