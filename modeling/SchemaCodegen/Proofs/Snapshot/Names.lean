import SchemaCodegen.Snapshot.Basic

/-!
# Names in a snapshot

A snapshot has no defects exactly if it is well named (`defect?_eq_none_iff`). Then its tables are
known by their bare names, the columns and indexes of a table by theirs, and relationships by their
keys.
-/

namespace SchemaCodegen

namespace Snapshot

/-! ## Repetitions -/

/-- The names differ from each other and from those that were seen before. -/
def DistinctBeside (seen names : List String) : Prop :=
  names.Nodup ∧ ∀ name ∈ names, name ∉ seen

section Repetitions

variable {seen names : List String} {name : String}

theorem distinctBeside_cons_iff :
    DistinctBeside seen (name :: names) ↔ name ∉ seen ∧ DistinctBeside (name :: seen) names := by
  rw [DistinctBeside, List.nodup_cons, List.forall_mem_cons, DistinctBeside]
  simp only [List.mem_cons, not_or]
  constructor
  · rintro ⟨⟨hname, hnodup⟩, hseen, hnames⟩
    refine ⟨hseen, hnodup, fun n hn => ⟨?_, hnames n hn⟩⟩
    rintro rfl
    exact hname hn
  · rintro ⟨hseen, hnodup, hnames⟩
    exact ⟨⟨fun hname => (hnames name hname).1 rfl, hnodup⟩, hseen, fun n hn => (hnames n hn).2⟩

theorem distinctBeside_nil : DistinctBeside [] names ↔ names.Nodup := by
  simp [DistinctBeside]

theorem firstRepeated?_eq_none_iff :
    firstRepeated? seen names = none ↔ DistinctBeside seen names := by
  induction names generalizing seen with
  | nil => simp [firstRepeated?, DistinctBeside]
  | cons first names ih =>
    rw [firstRepeated?, distinctBeside_cons_iff]
    by_cases hfirst : first ∈ seen
    · simp [hfirst]
    · simp [hfirst, ih]

theorem firstRepeated?_nil_eq_none_iff : firstRepeated? [] names = none ↔ names.Nodup :=
  firstRepeated?_eq_none_iff.trans distinctBeside_nil

end Repetitions

end Snapshot

/-! ## Tables -/

namespace Table

/-- There is something to read in the name of a table. -/
def IsNamed (t : Table) : Prop :=
  ∃ c ∈ t.name.toList, ¬ Text.isBlank c

/-- The names in a table are as they should be. -/
structure WellNamed (t : Table) : Prop where
  named : t.IsNamed
  columns : (t.columns.map Column.name).Nodup
  indexes : (t.indexes.map Index.name).Nodup

instance (t : Table) : Decidable t.IsNamed :=
  decidable_of_iff (t.name.toList.any fun c => !Text.isBlank c) (by simp [IsNamed])

instance (t : Table) : Decidable t.WellNamed :=
  decidable_of_iff (t.IsNamed ∧ (t.columns.map Column.name).Nodup ∧
    (t.indexes.map Index.name).Nodup)
    ⟨fun h => ⟨h.1, h.2.1, h.2.2⟩, fun h => ⟨h.named, h.columns, h.indexes⟩⟩

theorem isAllBlank_name_iff {t : Table} : Text.isAllBlank t.name = true ↔ ¬ t.IsNamed := by
  simp [Text.isAllBlank, IsNamed]

end Table

namespace Snapshot

section Tables

variable {database : String} {seen : List String} {t : Table} {tables : List Table}

theorem tableDefect?_eq_none_iff : tableDefect? t = none ↔
    (t.columns.map Column.name).Nodup ∧ (t.indexes.map Index.name).Nodup := by
  rw [tableDefect?, ← firstRepeated?_nil_eq_none_iff, ← firstRepeated?_nil_eq_none_iff]
  cases firstRepeated? [] (t.columns.map Column.name) with
  | none => simp
  | some name => simp

theorem tablesDefect?_of_blank (unnamed : ¬ t.IsNamed) :
    tablesDefect? database seen (t :: tables) = some .blankTableName := by
  rw [tablesDefect?, if_pos (Table.isAllBlank_name_iff.2 unnamed)]

theorem tablesDefect?_of_repeated (named : t.IsNamed) (repeated : t.name ∈ seen) :
    tablesDefect? database seen (t :: tables) = some (.duplicateTable t.name database) := by
  have hblank : ¬ Text.isAllBlank t.name = true := fun h => Table.isAllBlank_name_iff.1 h named
  rw [tablesDefect?, if_neg hblank, if_pos (by simpa using repeated)]

theorem tablesDefect?_cons (named : t.IsNamed) (unseen : t.name ∉ seen) :
    tablesDefect? database seen (t :: tables) =
      (tableDefect? t).or (tablesDefect? database (t.name :: seen) tables) := by
  have hblank : ¬ Text.isAllBlank t.name = true := fun h => Table.isAllBlank_name_iff.1 h named
  rw [tablesDefect?, if_neg hblank, if_neg (by simpa using unseen)]

theorem tablesDefect?_eq_none_iff : tablesDefect? database seen tables = none ↔
    (∀ t ∈ tables, t.WellNamed) ∧ DistinctBeside seen (tables.map Table.name) := by
  induction tables generalizing seen with
  | nil => simp [tablesDefect?, DistinctBeside]
  | cons t tables ih =>
    rw [List.map_cons, distinctBeside_cons_iff, List.forall_mem_cons]
    by_cases hnamed : t.IsNamed
    · by_cases hseen : t.name ∈ seen
      · simp [tablesDefect?_of_repeated hnamed hseen, hseen]
      · rw [tablesDefect?_cons hnamed hseen, Option.or_eq_none_iff, tableDefect?_eq_none_iff, ih]
        constructor
        · rintro ⟨⟨hcolumns, hindexes⟩, hwell, hdistinct⟩
          exact ⟨⟨⟨hnamed, hcolumns, hindexes⟩, hwell⟩, hseen, hdistinct⟩
        · rintro ⟨⟨ht, hwell⟩, -, hdistinct⟩
          exact ⟨⟨ht.columns, ht.indexes⟩, hwell, hdistinct⟩
    · rw [tablesDefect?_of_blank hnamed]
      constructor
      · intro h
        cases h
      · rintro ⟨⟨ht, -⟩, -⟩
        exact absurd ht.named hnamed

theorem tablesDefect?_nil_eq_none_iff : tablesDefect? database [] tables = none ↔
    (∀ t ∈ tables, t.WellNamed) ∧ (tables.map Table.name).Nodup := by
  rw [tablesDefect?_eq_none_iff, distinctBeside_nil]

end Tables

/-! ## Whole snapshots -/

/-- All names in a snapshot are as they should be. -/
structure WellNamed (s : Snapshot) : Prop where
  tables : ∀ t ∈ s.tables, t.WellNamed
  tableNames : (s.tables.map Table.name).Nodup
  relationships : (s.relationships.map Relationship.key).Nodup

section Whole

variable {s : Snapshot} {t : Table}

theorem defect?_eq_none_iff : s.defect? = none ↔ s.WellNamed := by
  rw [defect?, Option.or_eq_none_iff, tablesDefect?_nil_eq_none_iff, Option.map_eq_none_iff,
    firstRepeated?_nil_eq_none_iff]
  exact ⟨fun h => ⟨h.1.1, h.1.2, h.2⟩, fun h => ⟨⟨h.tables, h.tableNames⟩, h.relationships⟩⟩

/-- In a snapshot without defects no two tables have the same name. -/
theorem nodup_tableNames (h : s.defect? = none) : (s.tables.map Table.name).Nodup :=
  (defect?_eq_none_iff.1 h).tableNames

/-- Before a table of a snapshot without defects stand the tables up to its name. -/
theorem takeWhile_name_ne (h : s.defect? = none) {before after : List Table}
    (ht : s.tables = before ++ t :: after) :
    s.tables.takeWhile (·.name ≠ t.name) = before := by
  have hnames := nodup_tableNames h
  rw [ht, List.map_append, List.map_cons, List.nodup_append] at hnames
  have hbefore : ∀ b ∈ before, b.name ≠ t.name := by
    intro b hb
    exact hnames.2.2 _ (List.mem_map_of_mem hb) _ List.mem_cons_self
  rw [ht, List.takeWhile_append_of_pos (by simpa using hbefore)]
  simp

theorem nodup_columnNames (h : s.defect? = none) (ht : t ∈ s.tables) :
    (t.columns.map Column.name).Nodup :=
  ((defect?_eq_none_iff.1 h).tables t ht).columns

theorem nodup_indexNames (h : s.defect? = none) (ht : t ∈ s.tables) :
    (t.indexes.map Index.name).Nodup :=
  ((defect?_eq_none_iff.1 h).tables t ht).indexes

theorem nodup_relationshipKeys (h : s.defect? = none) :
    (s.relationships.map Relationship.key).Nodup :=
  (defect?_eq_none_iff.1 h).relationships

end Whole

end Snapshot

end SchemaCodegen
