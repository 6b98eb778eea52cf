import SchemaCodegen.Proofs.Change.Exactness

/-!
# Changes backwards

What a change is from the other side: what was added is removed, what was removed is added, and
what was modified is modified back (`TableChange.mirror` and its kin). The changes from the new
snapshot back to the old one are those from the old to the new one, mirrored one by one
(`since_mirrors`), although they are found in other lists and in another order.
-/

namespace SchemaCodegen

/-! ## A change from the other side -/

def ChangeKind.mirror : ChangeKind → ChangeKind
  | .added => .removed
  | .removed => .added
  | .modified => .modified

namespace TableChange

/-- The words for the change of a table. What was not there before is added. -/
def describe (name : String) : Option Table → String
  | none => "Table '" ++ name ++ "' was added"
  | some _ => "Table '" ++ name ++ "' was removed"

def mirror (c : TableChange) : TableChange where
  kind := c.kind.mirror
  tableName := c.tableName
  old := c.new
  new := c.old
  description := describe c.tableName c.new

end TableChange

namespace ColumnChange

/-- The words for the change of a column, given what it was and what it is. -/
def describe (table name : String) : Option Column → Option Column → String
  | none, _ => "Column '" ++ table ++ "." ++ name ++ "' was added"
  | some _, none => "Column '" ++ table ++ "." ++ name ++ "' was removed"
  | some old, some new =>
    "Column '" ++ table ++ "." ++ name ++ "' modified: " ++
      String.intercalate ", " (Changes.columnDifferences old new)

def mirror (c : ColumnChange) : ColumnChange where
  kind := c.kind.mirror
  tableName := c.tableName
  columnName := c.columnName
  old := c.new
  new := c.old
  description := describe c.tableName c.columnName c.new c.old

end ColumnChange

namespace IndexChange

def describe (table name : String) : Option Index → String
  | none => "Index '" ++ name ++ "' was added on '" ++ table ++ "'"
  | some _ => "Index '" ++ name ++ "' was removed from '" ++ table ++ "'"

def mirror (c : IndexChange) : IndexChange where
  kind := c.kind.mirror
  tableName := c.tableName
  indexName := c.indexName
  old := c.new
  new := c.old
  description := describe c.tableName c.indexName c.new

end IndexChange

namespace RelationshipChange

/-- The words for the change of a relationship, given what it was and what it is. -/
def describe : Option Relationship → Option Relationship → String
  | some r, _ => "Relationship removed: " ++ Changes.describeRelationship r
  | none, some r => "Relationship added: " ++ Changes.describeRelationship r
  | none, none => ""

def mirror (c : RelationshipChange) : RelationshipChange where
  kind := c.kind.mirror
  key := c.key
  old := c.new
  new := c.old
  description := describe c.new c.old

end RelationshipChange

namespace Changes

/-- The changes backwards are the changes forwards from the other side, in any order. -/
structure Mirrors (back forth : Changes) : Prop where
  tables : back.tables.Perm (forth.tables.map TableChange.mirror)
  columns : back.columns.Perm (forth.columns.map ColumnChange.mirror)
  indexes : back.indexes.Perm (forth.indexes.map IndexChange.mirror)
  relationships : back.relationships.Perm (forth.relationships.map RelationshipChange.mirror)

/-- The changes of tables and of what they hold. -/
def withinTables (c : Changes) : Changes :=
  { c with relationships := [] }

/-! ## What comes one way goes the other way -/

/-- An addition is a removal from the other side, and the other way round. -/
structure Exchanges {ε δ : Type} (mirror : δ → δ) (added removed : ε → δ) : Prop where
  of_added : ∀ e, mirror (added e) = removed e
  of_removed : ∀ e, mirror (removed e) = added e

theorem exchanges_tables : Exchanges TableChange.mirror tableAdded tableRemoved :=
  ⟨fun _ => rfl, fun _ => rfl⟩

theorem exchanges_columns (table : String) :
    Exchanges ColumnChange.mirror (columnAdded table) (columnRemoved table) :=
  ⟨fun _ => rfl, fun _ => rfl⟩

theorem exchanges_indexes (table : String) :
    Exchanges IndexChange.mirror (indexAdded table) (indexRemoved table) :=
  ⟨fun _ => rfl, fun _ => rfl⟩

theorem exchanges_relationships :
    Exchanges RelationshipChange.mirror relationshipAdded relationshipRemoved :=
  ⟨fun _ => rfl, fun _ => rfl⟩

section Keyed

variable {ε δ : Type} {key : ε → String} {added removed : ε → δ} {old new : List ε}
  {mirror : δ → δ}

theorem Exchanges.turnover_iff (h : Exchanges mirror added removed) {c : δ} :
    Turnover key added removed new old c ↔
      ∃ c', Turnover key added removed old new c' ∧ mirror c' = c := by
  constructor
  · intro hc
    cases hc with
    | @added e mem absent => exact ⟨removed e, .removed mem absent, h.of_removed e⟩
    | @removed e mem absent => exact ⟨added e, .added mem absent, h.of_added e⟩
  · rintro ⟨c', hc', rfl⟩
    cases hc' with
    | @added e mem absent =>
      rw [h.of_added]
      exact .removed mem absent
    | @removed e mem absent =>
      rw [h.of_removed]
      exact .added mem absent

/-- Lists without repetitions mirror each other if their members do. -/
theorem perm_map_mirror {α : Type} {name : δ → α} {back forth : List δ}
    (hname : ∀ c, name (mirror c) = name c) (hback : (back.map name).Nodup)
    (hforth : (forth.map name).Nodup)
    (hmem : ∀ c, c ∈ back ↔ ∃ c' ∈ forth, mirror c' = c) : back.Perm (forth.map mirror) := by
  have hmirrored : (forth.map mirror).Nodup := by
    refine List.Nodup.of_map name ?_
    simpa only [List.map_map, Function.comp_def, hname] using hforth
  refine (List.perm_ext_iff_of_nodup hback.of_map hmirrored).2 fun c => ?_
  rw [hmem, List.mem_map]

/-- A name that is the same from both sides is listed as often both ways. -/
theorem map_perm_map {α : Type} {name : δ → α} {back forth : List δ}
    (h : back.Perm (forth.map mirror)) (hname : ∀ c, name (mirror c) = name c) :
    (back.map name).Perm (forth.map name) := by
  simpa only [List.map_map, Function.comp_def, hname] using h.map name

end Keyed

/-! ## Columns that stay -/

theorem Aspect.differs_comm {a : Aspect} {c c' : Column} : a.Differs c c' ↔ a.Differs c' c := by
  cases a <;> exact ne_comm

theorem mirror_columnModified {table table' : String} {c c' : Column} (htable : table = table')
    (hname : c.name = c'.name) :
    (columnModified table c c').mirror = columnModified table' c' c := by
  subst htable
  simp only [columnModified, ColumnChange.mirror, ColumnChange.describe, ChangeKind.mirror,
    columnDifferences_eq, hname]

theorem modification_mirror_iff {old new : Table} {c : ColumnChange} (hname : old.name = new.name) :
    Modification new old c ↔ ∃ c', Modification old new c' ∧ c'.mirror = c := by
  constructor
  · rintro ⟨mem, mem', same, differs⟩
    exact ⟨_, .modified mem' mem same.symm (Aspect.differs_comm.1 differs),
      mirror_columnModified hname.symm same.symm⟩
  · rintro ⟨_, ⟨mem, mem', same, differs⟩, rfl⟩
    rw [mirror_columnModified hname.symm same]
    exact .modified mem' mem same.symm (Aspect.differs_comm.1 differs)

theorem columns_mirror_iff {old new : Table} {c : ColumnChange} (hname : old.name = new.name) :
    (Turnover Column.name (columnAdded old.name) (columnRemoved old.name) new.columns old.columns
        c ∨ Modification new old c) ↔
      ∃ c', (Turnover Column.name (columnAdded new.name) (columnRemoved new.name) old.columns
        new.columns c' ∨ Modification old new c') ∧ c'.mirror = c := by
  rw [modification_mirror_iff hname, hname, (exchanges_columns new.name).turnover_iff]
  simp only [or_and_right, exists_or]

theorem indexes_mirror_iff {old new : Table} {c : IndexChange} (hname : old.name = new.name) :
    Turnover Index.name (indexAdded old.name) (indexRemoved old.name) new.indexes old.indexes c ↔
      ∃ c', Turnover Index.name (indexAdded new.name) (indexRemoved new.name) old.indexes
        new.indexes c' ∧ c'.mirror = c := by
  rw [hname]
  exact (exchanges_indexes new.name).turnover_iff

/-- What mirrors in each pair of tables with one name, mirrors in all of them. -/
theorem exists_tables_mirror_iff {δ : Type} {mirror : δ → δ} {P : Table → Table → δ → Prop}
    (h : ∀ (o n : Table) (c : δ), o.name = n.name → (P n o c ↔ ∃ c', P o n c' ∧ mirror c' = c))
    {old new : List Table} {c : δ} :
    (∃ n ∈ new, ∃ o ∈ old, n.name = o.name ∧ P n o c) ↔
      ∃ c', (∃ o ∈ old, ∃ n ∈ new, o.name = n.name ∧ P o n c') ∧ mirror c' = c := by
  constructor
  · rintro ⟨n, hn, o, ho, hname, hc⟩
    obtain ⟨c', hc', hmirror⟩ := (h o n c hname.symm).1 hc
    exact ⟨c', ⟨o, ho, n, hn, hname.symm, hc'⟩, hmirror⟩
  · rintro ⟨c', ⟨o, ho, n, hn, hname, hc'⟩, hmirror⟩
    exact ⟨n, hn, o, ho, hname.symm, (h o n c hname).2 ⟨c', hc', hmirror⟩⟩

/-! ## Whole differences -/

section Whole

variable {old new : Snapshot} {forth back : Changes}

/-- Exact reports of both ways mirror each other. -/
theorem Exact.mirrors (hforth : Exact old new forth) (hback : Exact new old back) :
    Mirrors back forth where
  tables := by
    refine perm_map_mirror (fun _ => rfl) hback.nodup_tables hforth.nodup_tables fun c => ?_
    simp only [hback.mem_tables, hforth.mem_tables]
    exact exchanges_tables.turnover_iff
  columns := by
    refine perm_map_mirror (fun _ => rfl) hback.nodup_columns hforth.nodup_columns fun c => ?_
    simp only [hback.mem_columns, hforth.mem_columns]
    exact exists_tables_mirror_iff fun _ _ _ => columns_mirror_iff
  indexes := by
    refine perm_map_mirror (fun _ => rfl) hback.nodup_indexes hforth.nodup_indexes fun c => ?_
    simp only [hback.mem_indexes, hforth.mem_indexes]
    exact exists_tables_mirror_iff fun _ _ _ => indexes_mirror_iff
  relationships := by
    refine perm_map_mirror (fun _ => rfl) hback.nodup_relationships hforth.nodup_relationships
      fun c => ?_
    simp only [hback.mem_relationships, hforth.mem_relationships]
    exact exchanges_relationships.turnover_iff

theorem Mirrors.total_eq (h : Mirrors back forth) : back.total = forth.total := by
  simp [total, h.tables.length_eq, h.columns.length_eq, h.indexes.length_eq,
    h.relationships.length_eq]

theorem Mirrors.withinTables (h : Mirrors back forth) :
    Mirrors back.withinTables forth.withinTables :=
  ⟨h.tables, h.columns, h.indexes, .nil⟩

end Whole

/-! ## Affected tables -/

section Affected

variable {names names' : List String}

theorem mem_foldl_insert {set : Std.ExtTreeMap String Unit} {name : String} :
    name ∈ names.foldl (fun set name => set.insert name ()) set ↔ name ∈ names ∨ name ∈ set := by
  induction names generalizing set with
  | nil => simp
  | cons first names ih =>
    rw [List.foldl_cons, ih, Std.ExtTreeMap.mem_insert, Std.LawfulEqCmp.compare_eq_iff_eq,
      List.mem_cons, eq_comm (a := first)]
    tauto

/-- The order and the repetitions of names do not matter. -/
theorem sortedNames_eq_of_mem_iff (h : ∀ name, name ∈ names ↔ name ∈ names') :
    sortedNames names = sortedNames names' := by
  rw [sortedNames, sortedNames]
  congr 1
  refine Std.ExtTreeMap.ext_mem_unit fun name => ?_
  rw [mem_foldl_insert, mem_foldl_insert, h]

/-- As long as the relationships have the same ends from both sides, the same tables are
affected. -/
theorem Mirrors.affectedTables_eq {back forth : Changes} (h : Mirrors back forth)
    (hends : ∀ c ∈ forth.relationships, relationshipEnds c.mirror = relationshipEnds c) :
    back.affectedTables = forth.affectedTables := by
  have htables : (back.tables.map TableChange.tableName).Perm
      (forth.tables.map TableChange.tableName) := map_perm_map h.tables fun _ => rfl
  have hcolumns : (back.columns.map ColumnChange.tableName).Perm
      (forth.columns.map ColumnChange.tableName) := map_perm_map h.columns fun _ => rfl
  have hindexes : (back.indexes.map IndexChange.tableName).Perm
      (forth.indexes.map IndexChange.tableName) := map_perm_map h.indexes fun _ => rfl
  have hrelationships : (back.relationships.flatMap relationshipEnds).Perm
      (forth.relationships.flatMap relationshipEnds) := by
    have hperm := h.relationships.flatMap_right relationshipEnds
    rwa [List.flatMap_map, List.flatMap_congr hends] at hperm
  refine sortedNames_eq_of_mem_iff fun name => ?_
  exact (((htables.append hcolumns).append hindexes).append hrelationships).mem_iff

/-- A relationship comes or goes as a whole, so it has the same ends from both sides. -/
theorem Exact.relationshipEnds_mirror {old new : Snapshot} {changes : Changes}
    (h : Exact old new changes) {c : RelationshipChange} (hc : c ∈ changes.relationships) :
    relationshipEnds c.mirror = relationshipEnds c := by
  cases h.mem_relationships.1 hc <;> rfl

end Affected

/-- The changes back from the new snapshot to the old one are the changes from the old to the new
one, from the other side: as many, and affecting the same tables, with relationships and without. -/
theorem since_mirrors {old new : Snapshot} (hold : old.defect? = Option.none)
    (hnew : new.defect? = Option.none) :
    Mirrors (since (some new) old) (since (some old) new) ∧
      (since (some new) old).total = (since (some old) new).total ∧
      (since (some new) old).affectedTables = (since (some old) new).affectedTables ∧
      (since (some new) old).withinTables.affectedTables =
        (since (some old) new).withinTables.affectedTables := by
  have hforth : Exact old new (since (some old) new) := exact_between hold hnew
  have hback : Exact new old (since (some new) old) := exact_between hnew hold
  have hmirrors := hforth.mirrors hback
  refine ⟨hmirrors, hmirrors.total_eq, ?_, ?_⟩
  · exact hmirrors.affectedTables_eq fun c hc => hforth.relationshipEnds_mirror hc
  · exact hmirrors.withinTables.affectedTables_eq fun c hc => nomatch hc

namespace Sample

/-- The snapshot before, with a foreign key from a table that goes to one that stays. -/
def linked : Snapshot :=
  { before with relationships := [⟨"FK", "T", "a", "U", "c", .oneToMany, "Cascade", "NoAction"⟩] }

theorem since_mirrors_linked : linked.defect? = .none ∧ after.defect? = .none ∧
    Mirrors (since (some after) linked) (since (some linked) after) ∧
      (since (some after) linked).total = (since (some linked) after).total ∧
      (since (some after) linked).affectedTables = (since (some linked) after).affectedTables ∧
      (since (some after) linked).withinTables.affectedTables =
        (since (some linked) after).withinTables.affectedTables :=
  ⟨by decide, by decide, since_mirrors (by decide) (by decide)⟩

example : (since (some after) linked).columns.map (fun c => (c.kind, c.columnName)) =
    [(.modified, "a"), (.added, "b"), (.removed, "d")] := by
  decide

end Sample

end Changes

end SchemaCodegen
