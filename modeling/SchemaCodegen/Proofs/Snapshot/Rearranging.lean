import SchemaCodegen.Proofs.Fingerprint.Shape
import SchemaCodegen.Proofs.Metadata.Lineage
import SchemaCodegen.Proofs.Snapshot.Names

/-!
# Snapshots in another order

A catalog lists tables, columns, indexes and foreign keys in any order. Snapshots that differ in
nothing else are `Rearranged`. They have the same keys, and what is gathered table by table is the
same up to its order as long as this is so for single tables (`Rearranged.flatMap_perm`). The order
inside the keys of a table or an index is no matter of listing.
-/

namespace SchemaCodegen

/-- Tables that differ in the order of their columns and indexes at most. -/
structure Table.Rearranged (t t' : Table) : Prop where
  name : t.name = t'.name
  schemaName : t.schemaName = t'.schemaName
  primaryKeyColumns : t.primaryKeyColumns = t'.primaryKeyColumns
  columns : t.columns.Perm t'.columns
  indexes : t.indexes.Perm t'.indexes

namespace Table.Rearranged

variable {t t' : Table}

theorem qualifiedName_eq (h : t.Rearranged t') : t.qualifiedName = t'.qualifiedName := by
  rw [qualifiedName, qualifiedName, h.schemaName, h.name]

theorem columnKey_eq (h : t.Rearranged t') : columnKey t = columnKey t' := by
  funext c
  rw [columnKey, columnKey, h.schemaName, h.name]

theorem indexKey_eq (h : t.Rearranged t') : indexKey t = indexKey t' := by
  funext i
  rw [indexKey, indexKey, h.schemaName, h.name]

theorem sameShape (h : t.Rearranged t') : t.SameShape t' :=
  ⟨h.name, h.schemaName, h.primaryKeyColumns, h.columns.map _, h.indexes⟩

theorem ofTable_eq (h : t.Rearranged t') (hcolumns : (t.columns.map Column.name).Nodup)
    (hindexes : (t.indexes.map Index.name).Nodup) :
    Fingerprint.ofTable t = Fingerprint.ofTable t' := by
  rw [Fingerprint.ofTable, Fingerprint.tableShape_eq_of_sameShape h.sameShape hcolumns hindexes,
    Fingerprint.ofTable]

end Table.Rearranged

namespace Snapshot

/-- Snapshots with the same tables and relationships, listed in any order. -/
structure Rearranged (s s' : Snapshot) : Prop where
  tables : ∃ ts, s.tables.Perm ts ∧ List.Forall₂ Table.Rearranged ts s'.tables
  relationships : s.relationships.Perm s'.relationships

namespace Rearranged

variable {s s' : Snapshot} {γ : Type}

/-- What is gathered table by table is the same up to its order. -/
theorem flatMap_perm (h : s.Rearranged s') {f : Table → List γ}
    (hf : ∀ t ∈ s.tables, ∀ t', t.Rearranged t' → (f t).Perm (f t')) :
    (s.tables.flatMap f).Perm (s'.tables.flatMap f) := by
  obtain ⟨ts, hperm, hsame⟩ := h.tables
  refine (hperm.flatMap_right f).trans ?_
  replace hf : ∀ t ∈ ts, ∀ t', t.Rearranged t' → (f t).Perm (f t') :=
    fun t ht => hf t (hperm.mem_iff.2 ht)
  clear hperm
  generalize s'.tables = ts' at hsame
  induction hsame with
  | nil => exact .refl _
  | cons hfirst _ ih =>
    rw [List.flatMap_cons, List.flatMap_cons]
    exact (hf _ List.mem_cons_self _ hfirst).append
      (ih fun t ht => hf t (List.mem_cons_of_mem _ ht))

theorem map_perm (h : s.Rearranged s') {f : Table → γ}
    (hf : ∀ t ∈ s.tables, ∀ t', t.Rearranged t' → f t = f t') :
    (s.tables.map f).Perm (s'.tables.map f) := by
  have hperm := h.flatMap_perm (f := fun t => [f t]) fun t ht t' hsame => by
    rw [hf t ht t' hsame]
  simpa only [List.map_eq_flatMap] using hperm

theorem exists_table (h : s.Rearranged s') {t : Table} (ht : t ∈ s.tables) :
    ∃ t' ∈ s'.tables, t.Rearranged t' := by
  obtain ⟨ts, hperm, hsame⟩ := h.tables
  obtain ⟨i, rfl⟩ := List.mem_iff_get.1 (hperm.mem_iff.1 ht)
  exact ⟨_, List.get_mem _ _, hsame.get i.2 (hsame.length_eq ▸ i.2)⟩

/-! ## Keys -/

theorem tableKeys_perm (h : s.Rearranged s') :
    (s.tables.map Table.qualifiedName).Perm (s'.tables.map Table.qualifiedName) :=
  h.map_perm fun _ _ _ hsame => hsame.qualifiedName_eq

theorem columnKeys_perm (h : s.Rearranged s') : s.columnKeys.Perm s'.columnKeys :=
  h.flatMap_perm fun _ _ _ hsame => hsame.columnKey_eq ▸ hsame.columns.map _

theorem indexKeys_perm (h : s.Rearranged s') : s.indexKeys.Perm s'.indexKeys :=
  h.flatMap_perm fun _ _ _ hsame => hsame.indexKey_eq ▸ hsame.indexes.map _

theorem hasDistinctKeys (h : s.Rearranged s') (hkeys : s.HasDistinctKeys) : s'.HasDistinctKeys :=
  ⟨h.tableKeys_perm.nodup_iff.1 hkeys.tables, h.columnKeys_perm.nodup_iff.1 hkeys.columns,
    h.indexKeys_perm.nodup_iff.1 hkeys.indexes⟩

theorem recordKeys_perm (h : s.Rearranged s') : s.recordKeys.Perm s'.recordKeys := by
  refine (h.flatMap_perm fun t _ t' hsame => ?_).append (h.relationships.map _)
  rw [hsame.qualifiedName_eq, hsame.columnKey_eq, hsame.indexKey_eq]
  exact ((hsame.columns.map _).cons _).append (hsame.indexes.map _)

end Rearranged

end Snapshot

end SchemaCodegen
