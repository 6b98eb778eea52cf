import Mathlib.Data.List.Nodup
import SchemaCodegen.Change.Basic
import SchemaCodegen.Proofs.Snapshot.Names

/-!
# What counts as a change is reported, once

The changes between two snapshots are said without the lists that they are found by: entities of
one kind come or go by their names (`Turnover`), and columns that stay are modified in what is
compared of them (`Aspect`). `exact_since` says that exactly these changes are reported, each once,
and so that none are exactly when the snapshots are alike in all that is compared (`Alike`).
-/

namespace SchemaCodegen.Changes

/-! ## What is compared of columns -/

inductive Aspect where
  | type
  | length
  | nullability
  | primaryKey
  | foreignKey
deriving DecidableEq, Repr

namespace Aspect

def all : List Aspect :=
  [.type, .length, .nullability, .primaryKey, .foreignKey]

def label : Aspect → String
  | .type => "type"
  | .length => "length"
  | .nullability => "nullability"
  | .primaryKey => "primary key"
  | .foreignKey => "foreign key"

def describe : Aspect → Column → String
  | .type, c => c.dataType
  | .length, c => describeLength c.maxLength
  | .nullability, c => describeNullability c.isNullable
  | .primaryKey, c => describeFlag c.isPrimaryKey
  | .foreignKey, c => describeFlag c.isForeignKey

def Differs : Aspect → Column → Column → Prop
  | .type, old, new => old.dataType ≠ new.dataType
  | .length, old, new => old.maxLength ≠ new.maxLength
  | .nullability, old, new => old.isNullable ≠ new.isNullable
  | .primaryKey, old, new => old.isPrimaryKey ≠ new.isPrimaryKey
  | .foreignKey, old, new => old.isForeignKey ≠ new.isForeignKey

instance (old new : Column) : (a : Aspect) → Decidable (a.Differs old new)
  | .type => inferInstanceAs (Decidable (_ ≠ _))
  | .length => inferInstanceAs (Decidable (_ ≠ _))
  | .nullability => inferInstanceAs (Decidable (_ ≠ _))
  | .primaryKey => inferInstanceAs (Decidable (_ ≠ _))
  | .foreignKey => inferInstanceAs (Decidable (_ ≠ _))

/-- The old value and the new one. -/
def line (a : Aspect) (old new : Column) : String :=
  a.label ++ " changed: " ++ a.describe old ++ " → " ++ a.describe new

theorem mem_all (a : Aspect) : a ∈ all := by
  cases a <;> decide

end Aspect

/-- What differs between two columns. -/
def differing (old new : Column) : List Aspect :=
  Aspect.all.filter fun a => a.Differs old new

theorem mem_differing {old new : Column} {a : Aspect} :
    a ∈ differing old new ↔ a.Differs old new := by
  simp [differing, a.mem_all]

/-- A column that stays, with what differs and the values before and after. -/
def columnModified (table : String) (old new : Column) : ColumnChange :=
  ⟨.modified, table, new.name, some old, some new,
    "Column '" ++ table ++ "." ++ new.name ++ "' modified: " ++
      String.intercalate ", " ((differing old new).map (·.line old new))⟩

theorem difference_eq {a : Aspect} {old new : Column} {α : Type} [DecidableEq α]
    {describe : α → String} {x y : α} (hdiffers : a.Differs old new ↔ x ≠ y)
    (hold : a.describe old = describe x) (hnew : a.describe new = describe y) :
    difference a.label describe x y =
      ([a].filter fun a => a.Differs old new).map (·.line old new) := by
  rw [difference, List.filter_singleton]
  by_cases h : x = y
  · simp [h, hdiffers]
  · simp [h, hdiffers, Aspect.line, hold, hnew]

/-- The difference in one aspect, as it is found. -/
def Aspect.found (old new : Column) : Aspect → List String
  | .type => difference Aspect.type.label id old.dataType new.dataType
  | .length => difference Aspect.length.label describeLength old.maxLength new.maxLength
  | .nullability =>
    difference Aspect.nullability.label describeNullability old.isNullable new.isNullable
  | .primaryKey => difference Aspect.primaryKey.label describeFlag old.isPrimaryKey new.isPrimaryKey
  | .foreignKey => difference Aspect.foreignKey.label describeFlag old.isForeignKey new.isForeignKey

theorem Aspect.found_eq (old new : Column) (a : Aspect) :
    a.found old new = ([a].filter fun a => a.Differs old new).map (·.line old new) := by
  cases a <;> exact difference_eq .rfl rfl rfl

theorem columnDifferences_eq_flatMap (old new : Column) :
    columnDifferences old new = Aspect.all.flatMap (Aspect.found old new) := by
  simp [columnDifferences, Aspect.all, Aspect.found, Aspect.label]

/-- The differences that are found are those of the aspects that differ. -/
theorem columnDifferences_eq (old new : Column) :
    columnDifferences old new = (differing old new).map (·.line old new) := by
  rw [columnDifferences_eq_flatMap, funext (Aspect.found_eq old new), ← List.map_flatMap,
    ← List.filter_flatMap, List.flatMap_singleton']
  rfl

/-! ## What there is to report -/

/-- The change adds an entity whose key is new, or removes one whose key is gone. -/
inductive Turnover {ε δ : Type} (key : ε → String) (added removed : ε → δ) (old new : List ε) :
    δ → Prop where
  | added {e : ε} (mem : e ∈ new) (absent : key e ∉ old.map key) :
    Turnover key added removed old new (added e)
  | removed {e : ε} (mem : e ∈ old) (absent : key e ∉ new.map key) :
    Turnover key added removed old new (removed e)

/-- The change is one of a column that both tables have and that differs in some aspect. -/
inductive Modification (old new : Table) : ColumnChange → Prop where
  | modified {c c' : Column} {a : Aspect} (mem : c ∈ old.columns) (mem' : c' ∈ new.columns)
    (same : c.name = c'.name) (differs : a.Differs c c') :
    Modification old new (columnModified new.name c c')

/-- The changes that there are between two snapshots, each of them once. -/
structure Exact (old new : Snapshot) (changes : Changes) : Prop where
  mem_tables : ∀ {c : TableChange}, c ∈ changes.tables ↔
    Turnover Table.name tableAdded tableRemoved old.tables new.tables c
  mem_columns : ∀ {c : ColumnChange}, c ∈ changes.columns ↔
    ∃ o ∈ old.tables, ∃ n ∈ new.tables, o.name = n.name ∧
      (Turnover Column.name (columnAdded n.name) (columnRemoved n.name) o.columns n.columns c ∨
        Modification o n c)
  mem_indexes : ∀ {c : IndexChange}, c ∈ changes.indexes ↔
    ∃ o ∈ old.tables, ∃ n ∈ new.tables, o.name = n.name ∧
      Turnover Index.name (indexAdded n.name) (indexRemoved n.name) o.indexes n.indexes c
  mem_relationships : ∀ {c : RelationshipChange}, c ∈ changes.relationships ↔
    Turnover Relationship.key relationshipAdded relationshipRemoved old.relationships
      new.relationships c
  nodup_tables : (changes.tables.map TableChange.tableName).Nodup
  nodup_columns : (changes.columns.map fun c => (c.tableName, c.columnName)).Nodup
  nodup_indexes : (changes.indexes.map fun c => (c.tableName, c.indexName)).Nodup
  nodup_relationships : (changes.relationships.map RelationshipChange.key).Nodup

/-- The same names, and nothing that is compared of columns of one name differs. -/
structure TablesAlike (old new : Table) : Prop where
  columnNames : ∀ name, name ∈ old.columns.map Column.name ↔ name ∈ new.columns.map Column.name
  columns : ∀ c ∈ old.columns, ∀ c' ∈ new.columns, c.name = c'.name → ∀ a : Aspect, ¬ a.Differs c c'
  indexNames : ∀ name, name ∈ old.indexes.map Index.name ↔ name ∈ new.indexes.map Index.name

/-- The same tables and relationships by name, and tables of one name are alike. -/
structure Alike (old new : Snapshot) : Prop where
  tableNames : ∀ name, name ∈ old.tables.map Table.name ↔ name ∈ new.tables.map Table.name
  tables : ∀ o ∈ old.tables, ∀ n ∈ new.tables, o.name = n.name → TablesAlike o n
  relationshipKeys : ∀ key, key ∈ old.relationships.map Relationship.key ↔
    key ∈ new.relationships.map Relationship.key

/-! ## Entities that come or go -/

section Keyed

variable {ε δ : Type} {key : ε → String} {added removed : ε → δ} {old new : List ε}

theorem mem_lacking {e : ε} : e ∈ lacking key new old ↔ e ∈ new ∧ key e ∉ old.map key := by
  simp [lacking]

/-- What is lacking either way is what comes and what goes. -/
theorem mem_turnover {c : δ} :
    c ∈ (lacking key new old).map added ++ (lacking key old new).map removed ↔
      Turnover key added removed old new c := by
  rw [List.mem_append, List.mem_map, List.mem_map]
  constructor
  · rintro (⟨e, he, rfl⟩ | ⟨e, he, rfl⟩)
    · exact .added (mem_lacking.1 he).1 (mem_lacking.1 he).2
    · exact .removed (mem_lacking.1 he).1 (mem_lacking.1 he).2
  · rintro (⟨mem, absent⟩ | ⟨mem, absent⟩)
    · exact .inl ⟨_, mem_lacking.2 ⟨mem, absent⟩, rfl⟩
    · exact .inr ⟨_, mem_lacking.2 ⟨mem, absent⟩, rfl⟩

theorem nodup_lacking (hnew : (new.map key).Nodup) : ((lacking key new old).map key).Nodup :=
  hnew.sublist (List.filter_sublist.map key)

/-- Nothing comes and goes under one key. -/
theorem nodup_turnover {name : δ → String} (hadded : ∀ e, name (added e) = key e)
    (hremoved : ∀ e, name (removed e) = key e) (hold : (old.map key).Nodup)
    (hnew : (new.map key).Nodup) :
    (((lacking key new old).map added ++ (lacking key old new).map removed).map name).Nodup := by
  simp only [List.map_append, List.map_map, Function.comp_def, hadded, hremoved]
  refine (nodup_lacking hnew).append (nodup_lacking hold) fun k hk hk' => ?_
  obtain ⟨e, he, rfl⟩ := List.mem_map.1 hk
  obtain ⟨e', he', hsame⟩ := List.mem_map.1 hk'
  exact (mem_lacking.1 he).2 (List.mem_map.2 ⟨e', (mem_lacking.1 he').1, hsame⟩)

theorem forall_not_turnover_iff (added removed : ε → δ) :
    (∀ c, ¬ Turnover key added removed old new c) ↔ ∀ k, k ∈ old.map key ↔ k ∈ new.map key := by
  constructor
  · refine fun h k => ⟨fun hk => ?_, fun hk => ?_⟩
    · obtain ⟨e, he, rfl⟩ := List.mem_map.1 hk
      by_contra absent
      exact h _ (.removed he absent)
    · obtain ⟨e, he, rfl⟩ := List.mem_map.1 hk
      by_contra absent
      exact h _ (.added he absent)
  · rintro h _ (⟨mem, absent⟩ | ⟨mem, absent⟩)
    · exact absent ((h _).2 (List.mem_map_of_mem mem))
    · exact absent ((h _).1 (List.mem_map_of_mem mem))

/-- Where keys differ, the entity that is found by a key is the one that has it. -/
theorem find?_eq_some_iff_of_nodup (h : (old.map key).Nodup) {k : String} {e : ε} :
    old.find? (key · == k) = some e ↔ e ∈ old ∧ key e = k := by
  constructor
  · intro hfound
    exact ⟨List.mem_of_find?_eq_some hfound, by simpa using List.find?_some hfound⟩
  · rintro ⟨he, rfl⟩
    obtain ⟨found, hfound⟩ : ∃ found, old.find? (key · == key e) = some found :=
      Option.isSome_iff_exists.1 (List.find?_isSome.2 ⟨e, he, beq_self_eq_true _⟩)
    have hkey : key found = key e := by simpa using List.find?_some hfound
    rw [hfound, List.inj_on_of_nodup_map h (List.mem_of_find?_eq_some hfound) he hkey]

end Keyed

/-! ## Columns of a table that stays -/

section Columns

variable {old new : Table} {c c' : Column} {table : String} {change : ColumnChange}

theorem columnModified?_eq_some_iff : columnModified? table c c' = some change ↔
    (∃ a : Aspect, a.Differs c c') ∧ change = columnModified table c c' := by
  rw [columnModified?, columnDifferences_eq]
  cases hlist : differing c c' with
  | nil =>
    have hnone (a : Aspect) : ¬ a.Differs c c' := by simp [← mem_differing, hlist]
    simp [hnone]
  | cons a rest =>
    have hdiffers : a.Differs c c' := mem_differing.1 (hlist ▸ List.mem_cons_self)
    simp only [List.map_cons, columnModified, hlist, Option.some_inj, eq_comm (a := change)]
    exact ⟨fun h => ⟨⟨a, hdiffers⟩, h⟩, And.right⟩

theorem columnChange?_eq_some_iff (hold : (old.columns.map Column.name).Nodup) :
    columnChange? old table c' = some change ↔
      (c'.name ∉ old.columns.map Column.name ∧ change = columnAdded table c') ∨
        ∃ c ∈ old.columns, c.name = c'.name ∧ (∃ a : Aspect, a.Differs c c') ∧
          change = columnModified table c c' := by
  rw [columnChange?, Table.column?]
  cases hfound : old.columns.find? (·.name == c'.name) with
  | none =>
    have habsent : ∀ c ∈ old.columns, c.name ≠ c'.name := by simpa using hfound
    constructor
    · intro h
      cases h
      exact .inl ⟨by simpa using habsent, rfl⟩
    · rintro (⟨-, rfl⟩ | ⟨c, hc, hname, -⟩)
      · rfl
      · exact absurd hname (habsent c hc)
  | some c =>
    obtain ⟨hc, hname⟩ := (find?_eq_some_iff_of_nodup hold).1 hfound
    refine columnModified?_eq_some_iff.trans ⟨fun h => .inr ⟨c, hc, hname, h⟩, ?_⟩
    rintro (⟨habsent, -⟩ | ⟨other, hother, hother', h⟩)
    · exact absurd (hname ▸ List.mem_map_of_mem hc) habsent
    · rwa [List.inj_on_of_nodup_map hold hc hother (hname.trans hother'.symm)]

theorem columnsGone_eq : (old.columns.filter fun c => (new.column? c.name).isNone) =
    lacking Column.name old.columns new.columns := by
  refine List.filter_congr fun c _ => ?_
  rw [Table.column?, ← List.isSome_find?, Option.not_isSome]

theorem mem_columnChanges (hold : (old.columns.map Column.name).Nodup) :
    change ∈ columnChanges old new ↔
      Turnover Column.name (columnAdded new.name) (columnRemoved new.name) old.columns new.columns
        change ∨ Modification old new change := by
  rw [columnChanges, columnsGone_eq, List.mem_append, List.mem_filterMap, List.mem_map]
  constructor
  · rintro (⟨c', hc', hchange⟩ | ⟨c, hc, rfl⟩)
    · rcases (columnChange?_eq_some_iff hold).1 hchange with
        ⟨habsent, rfl⟩ | ⟨c, hc, hname, ⟨a, ha⟩, rfl⟩
      · exact .inl (.added hc' habsent)
      · exact .inr (.modified hc hc' hname ha)
    · exact .inl (.removed (mem_lacking.1 hc).1 (mem_lacking.1 hc).2)
  · rintro ((⟨mem, absent⟩ | ⟨mem, absent⟩) | ⟨mem, mem', same, differs⟩)
    · exact .inl ⟨_, mem, (columnChange?_eq_some_iff hold).2 (.inl ⟨absent, rfl⟩)⟩
    · exact .inr ⟨_, mem_lacking.2 ⟨mem, absent⟩, rfl⟩
    · exact .inl ⟨_, mem', (columnChange?_eq_some_iff hold).2
        (.inr ⟨_, mem, same, ⟨_, differs⟩, rfl⟩)⟩

theorem columnName_of_columnChange? (h : columnChange? old table c = some change) :
    change.columnName = c.name ∧ change.tableName = table := by
  rw [columnChange?] at h
  split at h
  · cases h
    exact ⟨rfl, rfl⟩
  · obtain ⟨-, rfl⟩ := columnModified?_eq_some_iff.1 h
    exact ⟨rfl, rfl⟩

theorem tableName_of_mem_columnChanges (h : change ∈ columnChanges old new) :
    change.tableName = new.name := by
  rw [columnChanges, List.mem_append, List.mem_filterMap, List.mem_map] at h
  rcases h with ⟨c, -, hchange⟩ | ⟨c, -, rfl⟩
  · exact (columnName_of_columnChange? hchange).2
  · rfl

/-- The names of changed columns of the new table are among its column names, in their order. -/
theorem map_columnName_sublist (cs : List Column) :
    ((cs.filterMap (columnChange? old table)).map ColumnChange.columnName).Sublist
      (cs.map Column.name) := by
  induction cs with
  | nil => exact .slnil
  | cons c cs ih =>
    cases hchange : columnChange? old table c with
    | none =>
      rw [List.filterMap_cons_none hchange]
      exact ih.cons _
    | some change =>
      rw [List.filterMap_cons_some hchange, List.map_cons, List.map_cons,
        (columnName_of_columnChange? hchange).1]
      exact ih.cons_cons _

theorem nodup_columnChanges (hold : (old.columns.map Column.name).Nodup)
    (hnew : (new.columns.map Column.name).Nodup) :
    ((columnChanges old new).map ColumnChange.columnName).Nodup := by
  rw [columnChanges, columnsGone_eq, List.map_append, List.map_map]
  refine (hnew.sublist (map_columnName_sublist new.columns)).append (nodup_lacking hold) ?_
  intro name hname hgone
  obtain ⟨c, hc, rfl⟩ := List.mem_map.1 hgone
  exact (mem_lacking.1 hc).2 ((map_columnName_sublist new.columns).subset hname)

end Columns

/-! ## Tables that stay -/

section Shared

variable {α : Type} {f : Table → Table → List α} {old new : List Table}

theorem mem_sharedTables (hold : (old.map Table.name).Nodup) {x : α} :
    x ∈ sharedTables f old new ↔ ∃ o ∈ old, ∃ n ∈ new, o.name = n.name ∧ x ∈ f o n := by
  rw [sharedTables, List.mem_flatMap]
  constructor
  · rintro ⟨n, hn, hx⟩
    split at hx
    · next o hfound =>
      obtain ⟨ho, hname⟩ := (find?_eq_some_iff_of_nodup hold).1 hfound
      exact ⟨o, ho, n, hn, hname, hx⟩
    · cases hx
  · rintro ⟨o, ho, n, hn, hname, hx⟩
    refine ⟨n, hn, ?_⟩
    rwa [(find?_eq_some_iff_of_nodup hold).2 ⟨ho, hname⟩]

/-- What names of things below tables tell apart within tables, names with those of the tables
tell apart throughout. -/
theorem nodup_sharedTables {table part : α → String} (hnew : (new.map Table.name).Nodup)
    (hparts : ∀ o ∈ old, ∀ n ∈ new, ((f o n).map part).Nodup)
    (htable : ∀ o n, ∀ x ∈ f o n, table x = n.name) :
    ((sharedTables f old new).map fun x => (table x, part x)).Nodup := by
  rw [sharedTables, List.map_flatMap, List.nodup_flatMap]
  constructor
  · intro n hn
    split
    · next o hfound =>
      refine List.Nodup.of_map Prod.snd ?_
      rw [List.map_map]
      exact hparts o (List.mem_of_find?_eq_some hfound) n hn
    · exact List.nodup_nil
  · refine (List.pairwise_map.1 hnew).imp fun {n n'} hne => ?_
    intro p hp hp'
    obtain ⟨x, hx, rfl⟩ := List.mem_map.1 hp
    obtain ⟨x', hx', hsame⟩ := List.mem_map.1 hp'
    split at hx
    · split at hx'
      · refine hne ?_
        calc n.name = table x := (htable _ _ x hx).symm
          _ = table x' := (congrArg Prod.fst hsame).symm
          _ = n'.name := htable _ _ x' hx'
      · cases hx'
    · cases hx

end Shared

/-! ## The whole difference -/

section Whole

variable {old new : Snapshot}

theorem exact_between (hold : old.defect? = Option.none) (hnew : new.defect? = Option.none) :
    Exact old new (between old new) where
  mem_tables := mem_turnover
  mem_columns {c} := by
    refine (mem_sharedTables (Snapshot.nodup_tableNames hold)).trans ?_
    refine exists_congr fun o => and_congr_right fun ho => ?_
    simp only [mem_columnChanges (Snapshot.nodup_columnNames hold ho)]
  mem_indexes {c} := by
    refine (mem_sharedTables (Snapshot.nodup_tableNames hold)).trans ?_
    simp only [indexChanges, mem_turnover]
  mem_relationships := mem_turnover
  nodup_tables := nodup_turnover (fun _ => rfl) (fun _ => rfl) (Snapshot.nodup_tableNames hold)
    (Snapshot.nodup_tableNames hnew)
  nodup_columns := nodup_sharedTables (Snapshot.nodup_tableNames hnew)
    (fun _ ho _ hn => nodup_columnChanges (Snapshot.nodup_columnNames hold ho)
      (Snapshot.nodup_columnNames hnew hn))
    fun _ _ _ => tableName_of_mem_columnChanges
  nodup_indexes := nodup_sharedTables (Snapshot.nodup_tableNames hnew)
    (fun _ ho _ hn => nodup_turnover (fun _ => rfl) (fun _ => rfl)
      (Snapshot.nodup_indexNames hold ho) (Snapshot.nodup_indexNames hnew hn))
    fun _ _ _ hx => by
      rcases mem_turnover.1 hx with _ | _ <;> rfl
  nodup_relationships := nodup_turnover (fun _ => rfl) (fun _ => rfl)
    (Snapshot.nodup_relationshipKeys hold) (Snapshot.nodup_relationshipKeys hnew)

theorem isEmpty_iff {changes : Changes} : changes.isEmpty ↔
    changes.tables = [] ∧ changes.columns = [] ∧ changes.indexes = [] ∧
      changes.relationships = [] := by
  simp [isEmpty, total, List.length_eq_zero_iff, and_assoc]

theorem Exact.isEmpty_iff_alike {changes : Changes} (h : Exact old new changes) :
    changes.isEmpty ↔ Alike old new := by
  simp only [isEmpty_iff, List.eq_nil_iff_forall_not_mem, h.mem_tables, h.mem_columns,
    h.mem_indexes, h.mem_relationships]
  constructor
  · rintro ⟨htables, hcolumns, hindexes, hrelationships⟩
    refine ⟨(forall_not_turnover_iff ..).1 htables, fun o ho n hn hname => ⟨?_, ?_, ?_⟩,
      (forall_not_turnover_iff ..).1 hrelationships⟩
    · exact (forall_not_turnover_iff (columnAdded n.name) (columnRemoved n.name)).1
        fun c hc => hcolumns c ⟨o, ho, n, hn, hname, .inl hc⟩
    · intro c hc c' hc' hsame a ha
      exact hcolumns _ ⟨o, ho, n, hn, hname, .inr (.modified hc hc' hsame ha)⟩
    · exact (forall_not_turnover_iff (indexAdded n.name) (indexRemoved n.name)).1
        fun c hc => hindexes c ⟨o, ho, n, hn, hname, hc⟩
  · intro halike
    refine ⟨(forall_not_turnover_iff ..).2 halike.tableNames, ?_, ?_,
      (forall_not_turnover_iff ..).2 halike.relationshipKeys⟩
    · rintro c ⟨o, ho, n, hn, hname, hturnover | ⟨hc, hc', hsame, ha⟩⟩
      · exact (forall_not_turnover_iff ..).2 (halike.tables o ho n hn hname).columnNames c hturnover
      · exact (halike.tables o ho n hn hname).columns _ hc _ hc' hsame _ ha
    · rintro c ⟨o, ho, n, hn, hname, hturnover⟩
      exact (forall_not_turnover_iff ..).2 (halike.tables o ho n hn hname).indexNames c hturnover

/-- Between two snapshots without defects exactly the changes that there are get reported, each of
them once, and so none exactly if the snapshots are alike. -/
theorem exact_since (hold : old.defect? = Option.none) (hnew : new.defect? = Option.none) :
    Exact old new (since (some old) new) ∧ ((since (some old) new).isEmpty ↔ Alike old new) :=
  have h : Exact old new (since (some old) new) := exact_between hold hnew
  ⟨h, h.isEmpty_iff_alike⟩

end Whole

namespace Sample

def column (name dataType : String) (isPrimaryKey : Bool) : Column :=
  ⟨name, dataType, .none, .none, .none, false, isPrimaryKey, false, false, false, .none, .none,
    .none, ∅⟩

def snapshot (tables : List Table) : Snapshot :=
  ⟨"db", "server", "1", default, tables, []⟩

def before : Snapshot :=
  snapshot [⟨"T", "dbo", [column "a" "int" false, column "b" "int" false], [], []⟩,
    ⟨"U", "dbo", [column "c" "int" false], [], []⟩]

def after : Snapshot :=
  snapshot [⟨"T", "dbo", [column "a" "bigint" true, column "d" "int" false], [], []⟩]

theorem exact_since_before : before.defect? = .none ∧ after.defect? = .none ∧
    Exact before after (since (some before) after) ∧
      ((since (some before) after).isEmpty ↔ Alike before after) :=
  ⟨by decide, by decide, exact_since (by decide) (by decide)⟩

example : (since (some before) after).columns.map (fun c => (c.kind, c.columnName)) =
    [(.modified, "a"), (.added, "d"), (.removed, "b")] := by
  decide

end Sample

end SchemaCodegen.Changes
