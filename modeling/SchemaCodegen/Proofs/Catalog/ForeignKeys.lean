import SchemaCodegen.Proofs.Catalog.Indexes
import SchemaCodegen.Proofs.Snapshot.Acceptance

/-!
# Foreign keys from their rows

Introspection marks the columns that foreign keys start from and makes relationships of the rows, a
key occurring once. As long as the columns of each table have different names, and so its indexes,
marks and relationships tell the same (`Snapshot.Reflects`), and nothing but a blank table name
makes the snapshot unusable (`introspect_foreignKeys`).
-/

namespace SchemaCodegen

namespace Snapshot

theorem FirstRepeated.not_nodup {names : List String} {name : String}
    (h : FirstRepeated names name) : ¬ names.Nodup := by
  intro hnodup
  have hrepeated := firstRepeated?_nil_eq_some_iff.2 h
  rw [firstRepeated?_nil_eq_none_iff.2 hnodup] at hrepeated
  cases hrepeated

/-- Where all names differ that should, only blank ones are refused. -/
theorem validated_of_distinct {s : Snapshot} (tableNames : (s.tables.map Table.name).Nodup)
    (tables : ∀ t ∈ s.tables,
      (t.columns.map Column.name).Nodup ∧ (t.indexes.map Index.name).Nodup)
    (relationships : (s.relationships.map Relationship.key).Nodup) :
    s.validated = .ok s ∨ (∃ t ∈ s.tables, ¬ t.IsNamed) ∧
      s.validated = .error (.validation Defect.blankTableName.message) := by
  cases hdefect : s.defect? with
  | none => exact .inl (validated_eq_ok_iff.2 (defect?_eq_none_iff.1 hdefect))
  | some d =>
    have hfirst := defect?_eq_some_iff.1 hdefect
    have hrefused := validated_eq_error_iff.2 ⟨d, hfirst, rfl⟩
    cases hfirst with
    | @table before after t d parted _ _ defect =>
      have ht : t ∈ s.tables := parted ▸ List.mem_append_right _ List.mem_cons_self
      cases defect with
      | blank unnamed => exact .inr ⟨⟨t, ht, unnamed⟩, hrefused⟩
      | repeated _ repeated =>
        rw [parted, List.map_append, List.map_cons, List.nodup_append] at tableNames
        exact absurd rfl (tableNames.2.2 _ repeated _ List.mem_cons_self)
      | column _ _ repeated => exact absurd (tables t ht).1 repeated.not_nodup
      | index _ _ _ repeated => exact absurd (tables t ht).2 repeated.not_nodup
    | relationship _ _ repeated => exact absurd relationships repeated.not_nodup

end Snapshot

namespace Catalog

/-! ## The first of each key -/

/-- The elements whose keys no element before them has. -/
def firstsOf {α : Type} (key : α → String) (as : List α) : List α :=
  as.eraseDupsBy fun a b => key a == key b

section Firsts

variable {α : Type} {key : α → String}

theorem firstsOf_cons {a : α} {as : List α} :
    firstsOf key (a :: as) = a :: firstsOf key (as.filter fun b => key b ≠ key a) := by
  rw [firstsOf, List.eraseDupsBy_cons]
  simp [firstsOf]

/-- Keeping what was not seen before keeps the first of each key. -/
theorem eq_firstsOf {keep : List String → List α → List α} (nil : ∀ seen, keep seen [] = [])
    (cons : ∀ seen a as, keep seen (a :: as) =
      if seen.contains (key a) then keep seen as else a :: keep (key a :: seen) as)
    (seen : List String) (as : List α) :
    keep seen as = firstsOf key (as.filter fun a => key a ∉ seen) := by
  induction as generalizing seen with
  | nil => exact nil seen
  | cons a as ih =>
    rw [cons]
    by_cases hseen : key a ∈ seen
    · rw [if_pos (by simpa using hseen), List.filter_cons_of_neg (by simpa using hseen), ih]
    · rw [if_neg (by simpa using hseen), List.filter_cons_of_pos (by simpa using hseen), ih,
        firstsOf_cons, List.filter_filter]
      simp

theorem firstOfEachName_eq (rows : List TableRow) :
    firstOfEachName [] rows = firstsOf TableRow.tableName rows := by
  have hrest := @eq_firstsOf _ TableRow.tableName firstOfEachName (fun _ => rfl) (fun _ _ _ => rfl)
  simpa using hrest [] rows

theorem firstOfEachKey_eq (rs : List Relationship) :
    firstOfEachKey [] rs = firstsOf Relationship.key rs := by
  have hrest := @eq_firstsOf _ Relationship.key firstOfEachKey (fun _ => rfl) (fun _ _ _ => rfl)
  simpa using hrest [] rs

theorem map_firstsOf (as : List α) : (firstsOf key as).map key = (as.map key).eraseDups := by
  cases as with
  | nil => rfl
  | cons a as =>
    have hfilter : (as.filter fun b => key b ≠ key a) =
        as.filter ((fun k => !k == key a) ∘ key) :=
      List.filter_congr fun b _ => by by_cases hb : key b = key a <;> simp [hb]
    rw [firstsOf_cons, List.map_cons, map_firstsOf, List.map_cons, List.eraseDups_cons,
      List.filter_map, hfilter]
termination_by as.length
decreasing_by exact Nat.lt_succ_of_le (List.length_filter_le _ _)

theorem nodup_firstsOf (as : List α) : ((firstsOf key as).map key).Nodup := by
  rw [map_firstsOf]
  exact nodup_eraseDups _

theorem firstsOf_sublist (as : List α) : (firstsOf key as).Sublist as := by
  cases as with
  | nil => exact .slnil
  | cons a as =>
    rw [firstsOf_cons]
    exact ((firstsOf_sublist _).trans List.filter_sublist).cons_cons a
termination_by as.length
decreasing_by exact Nat.lt_succ_of_le (List.length_filter_le _ _)

theorem exists_mem_firstsOf {a : α} {as : List α} (h : a ∈ as) :
    ∃ b ∈ firstsOf key as, key b = key a := by
  have hkey : key a ∈ (firstsOf key as).map key := by
    rw [map_firstsOf, List.mem_eraseDups]
    exact List.mem_map_of_mem h
  exact List.mem_map.1 hkey

end Firsts

/-! ## Marking columns -/

/-- Whether the foreign key starts from the column of that name in the table of that name. -/
def ForeignKeyRow.startsAt (table column : String) (row : ForeignKeyRow) : Bool :=
  row.childTable == table && row.childColumn == column

/-- The last of the rows that start from a column of a table. -/
def lastFrom? (rows : List ForeignKeyRow) (table column : String) : Option ForeignKeyRow :=
  (rows.filter (ForeignKeyRow.startsAt table column)).getLast?

/-- A column as the last row that starts from it marks it. -/
def markedBy (rows : List ForeignKeyRow) (table : String) (c : Column) : Column :=
  (lastFrom? rows table c.name).elim c fun row => row.markColumn c

/-- A table with all its columns marked. -/
def markedTable (rows : List ForeignKeyRow) (t : Table) : Table :=
  { t with columns := t.columns.map (markedBy rows t.name) }

section Marking

variable {rows : List ForeignKeyRow} {row : ForeignKeyRow} {t : Table} {tables : List Table}
  {c : Column} {table column : String}

theorem lastFrom?_concat : lastFrom? (rows ++ [row]) table column =
    if row.startsAt table column then some row else lastFrom? rows table column := by
  rw [lastFrom?, List.filter_append]
  cases hstarts : row.startsAt table column with
  | true => simp [hstarts]
  | false => simp [hstarts, lastFrom?]

theorem of_lastFrom? (h : lastFrom? rows table column = some row) :
    row ∈ rows ∧ row.childTable = table ∧ row.childColumn = column := by
  have hmem := List.mem_filter.1 (List.mem_of_getLast? h)
  simpa [ForeignKeyRow.startsAt] using hmem

theorem isSome_lastFrom? : (lastFrom? rows table column).isSome = true ↔
    ∃ row ∈ rows, row.childTable = table ∧ row.childColumn = column := by
  simp [lastFrom?, ForeignKeyRow.startsAt]

@[simp] theorem name_markedTable : (markedTable rows t).name = t.name := rfl

@[simp] theorem name_markedBy : (markedBy rows table c).name = c.name := by
  unfold markedBy
  cases lastFrom? rows table c.name <;> rfl

/-- Of elements with different keys only one has the key. -/
theorem modifyFirst_eq_map {α : Type} {key : α → String} {k : String} {f : α → α} {as : List α}
    (h : (as.map key).Nodup) :
    modifyFirst (key · == k) f as = as.map fun a => if key a == k then f a else a := by
  induction as with
  | nil => rfl
  | cons a as ih =>
    rw [List.map_cons, List.nodup_cons] at h
    rw [modifyFirst, List.map_cons]
    split
    · next hkey =>
      have hothers : as.map (fun b => if key b == k then f b else b) = as := by
        refine (List.map_congr_left fun b hb => ?_).trans (List.map_id as)
        have hne : (key b == k) = false := by
          refine beq_false_of_ne fun hb' => h.1 ?_
          rw [eq_of_beq hkey, ← hb']
          exact List.mem_map_of_mem hb
        rw [hne]
        rfl
      rw [hothers]
    · rw [ih h.2]

theorem markedBy_concat : markedBy (rows ++ [row]) table c =
    if row.startsAt table c.name then row.markColumn (markedBy rows table c)
    else markedBy rows table c := by
  unfold markedBy
  rw [lastFrom?_concat]
  cases row.startsAt table c.name with
  | false => rfl
  | true =>
    -- A mark covers all that an earlier one told.
    cases lastFrom? rows table c.name <;> rfl

/-- Marking row by row, each column is marked by the last row that starts from it. -/
theorem markForeignKeys_eq_map (names : (tables.map Table.name).Nodup)
    (columns : ∀ t ∈ tables, (t.columns.map Column.name).Nodup) (rows : List ForeignKeyRow) :
    markForeignKeys tables rows = tables.map (markedTable rows) := by
  induction rows using List.reverseRecOn with
  | nil =>
    have hsame : ∀ t : Table, markedTable [] t = t := fun t => by
      rw [markedTable, show markedBy [] t.name = id from rfl, List.map_id]
    exact (List.map_id tables).symm.trans (List.map_congr_left fun t _ => (hsame t).symm)
  | append_singleton rows row ih =>
    have hnames : ((tables.map (markedTable rows)).map Table.name).Nodup := by
      rwa [List.map_map]
    rw [markForeignKeys] at ih
    rw [markForeignKeys, List.foldl_append, ih, List.foldl_cons, List.foldl_nil,
      ForeignKeyRow.mark, modifyFirst_eq_map hnames, List.map_map]
    refine List.map_congr_left fun t ht => ?_
    have hcolumns : ((t.columns.map (markedBy rows t.name)).map Column.name).Nodup := by
      rw [List.map_map]
      simpa [Function.comp_def] using columns t ht
    change (if t.name == row.childTable then row.markTable (markedTable rows t)
      else markedTable rows t) = _
    by_cases htable : t.name = row.childTable
    · rw [if_pos (beq_iff_eq.2 htable), ForeignKeyRow.markTable, markedTable, markedTable]
      dsimp only
      rw [modifyFirst_eq_map hcolumns, List.map_map]
      congr 1
      refine List.map_congr_left fun c _ => ?_
      have hstarts : row.startsAt t.name c.name = (c.name == row.childColumn) := by
        rw [ForeignKeyRow.startsAt, ← htable, beq_self_eq_true, Bool.true_and, Bool.beq_comm]
      rw [markedBy_concat, hstarts, Function.comp_apply, name_markedBy]
    · rw [if_neg (by simpa using htable), markedTable, markedTable]
      congr 1
      refine List.map_congr_left fun c _ => ?_
      rw [markedBy_concat, if_neg]
      simp [ForeignKeyRow.startsAt, Ne.symm htable]

end Marking

/-! ## Relationships -/

/-- The column alone is the primary key of its table, or the key of a unique index. -/
def IsUniqueIn (tables : List Table) (table column : String) : Prop :=
  ∃ t ∈ tables, t.name = table ∧
    (t.primaryKeyColumns = [column] ∨ ∃ i ∈ t.indexes, i.isUnique = true ∧ i.columns = [column])

section Relating

variable {rows : List ForeignKeyRow} {row : ForeignKeyRow} {tables : List Table}

theorem key_relationship : (row.relationship tables).key =
    row.parentTable ++ "." ++ row.parentColumn ++ "->" ++ row.childTable ++ "." ++
      row.childColumn := rfl

theorem isUniqueColumn_iff {t : Table} {column : String} : isUniqueColumn t column = true ↔
    t.primaryKeyColumns = [column] ∨ ∃ i ∈ t.indexes, i.isUnique = true ∧ i.columns = [column] := by
  simp [isUniqueColumn]

/-- Where names differ, there is one table to look at. -/
theorem cardinality_eq_oneToOne_iff (names : (tables.map Table.name).Nodup) :
    row.cardinality tables = .oneToOne ↔ IsUniqueIn tables row.childTable row.childColumn := by
  unfold ForeignKeyRow.cardinality IsUniqueIn
  cases hfound : tables.find? (·.name == row.childTable) with
  | none =>
    have hunknown := List.find?_eq_none.1 hfound
    refine iff_of_false nofun ?_
    rintro ⟨t, ht, hname, -⟩
    exact hunknown t ht (beq_iff_eq.2 hname)
  | some t =>
    have ht := List.mem_of_find?_eq_some hfound
    have hname : t.name = row.childTable := by simpa using List.find?_some hfound
    have hunique : (∃ t' ∈ tables, t'.name = row.childTable ∧ (t'.primaryKeyColumns =
        [row.childColumn] ∨ ∃ i ∈ t'.indexes, i.isUnique = true ∧ i.columns = [row.childColumn])) ↔
        isUniqueColumn t row.childColumn = true := by
      rw [isUniqueColumn_iff]
      constructor
      · rintro ⟨t', ht', hname', h⟩
        rwa [List.inj_on_of_nodup_map names ht ht' (hname.trans hname'.symm)]
      · exact fun h => ⟨t, ht, hname, h⟩
    rw [hunique]
    cases hcolumn : isUniqueColumn t row.childColumn <;> simp [hcolumn]

/-- Marks do not change what is unique. -/
theorem relationship_markedTable : ForeignKeyRow.relationship (tables.map (markedTable rows)) =
    ForeignKeyRow.relationship tables := by
  funext row
  have hcardinality :
      row.cardinality (tables.map (markedTable rows)) = row.cardinality tables := by
    have hfind : (tables.map (markedTable rows)).find? (·.name == row.childTable) =
        (tables.find? (·.name == row.childTable)).map (markedTable rows) := List.find?_map
    unfold ForeignKeyRow.cardinality
    rw [hfind]
    cases tables.find? (·.name == row.childTable) <;> rfl
  simp only [ForeignKeyRow.relationship, hcardinality]

end Relating

/-! ## What rows make -/

/-- The rows that a catalog answers its queries with. -/
structure Rows where
  info : List DatabaseRow
  tables : List TableRow
  primaryKey : (schema table : String) → List String
  columns : (schema table : String) → List ColumnRow
  indexes : List IndexRow
  foreignKeys : List ForeignKeyRow

namespace Rows

def answer (rows : Rows) : (q : Query) → List q.Row
  | .info => rows.info
  | .tables => rows.tables
  | .primaryKey schema table => rows.primaryKey schema table
  | .columns schema table => rows.columns schema table
  | .indexes => rows.indexes
  | .foreignKeys => rows.foreignKeys

/-- Whenever the catalog answers a query, it is with these rows. -/
def Answer {σ : Type} (rows : Rows) (step : introspecting.Step σ) : Prop :=
  ∀ {q : Query} {s s' : σ} {reply : List q.Row},
    step (.inr q) s (Except.ok reply : Except Database.Fault _) s' → reply = rows.answer q

/-- The tables that are kept, before their columns are marked. -/
def kept (rules : Convention.Resolver) (rows : Rows) : List Table :=
  attachIndexes (indexesByTable rows.indexes)
    ((firstOfEachName [] rows.tables).map fun row =>
      row.table rules (rows.primaryKey row.schemaName row.tableName)
        (rows.columns row.schemaName row.tableName))

/-- The snapshot that the rows make, which need not be usable. -/
def snapshot (rules : Convention.Resolver) (rows : Rows) (info : DatabaseRow)
    (analyzedAt : Instant) : Snapshot where
  databaseName := info.databaseName
  serverName := info.serverName
  version := info.version
  analyzedAt := analyzedAt
  tables := markForeignKeys (rows.kept rules) rows.foreignKeys
  relationships := relationshipsOf (rows.kept rules) rows.foreignKeys

end Rows

end Catalog

open Catalog (Rows firstsOf lastFrom? IsUniqueIn TableRow ForeignKeyRow)

/-- The tables, marks and relationships of a snapshot are those that the rows tell of. -/
structure Snapshot.Reflects (snapshot : Snapshot) (rows : Rows) : Prop where
  tables : snapshot.tables.map Table.schemaAndName =
    (firstsOf TableRow.tableName rows.tables).map TableRow.schemaAndName
  /-- The columns that rows start from are the foreign keys. -/
  flagged : ∀ t ∈ snapshot.tables, ∀ c ∈ t.columns, c.isForeignKey = true ↔
    ∃ row ∈ rows.foreignKeys, row.childTable = t.name ∧ row.childColumn = c.name
  /-- A column refers to what the last of its rows does. -/
  references : ∀ t ∈ snapshot.tables, ∀ c ∈ t.columns,
    c.referencedTable =
        (lastFrom? rows.foreignKeys t.name c.name).map ForeignKeyRow.parentTable ∧
      c.referencedColumn =
        (lastFrom? rows.foreignKeys t.name c.name).map ForeignKeyRow.parentColumn
  /-- What a column refers to is in a relationship. -/
  linked : ∀ t ∈ snapshot.tables, ∀ c ∈ t.columns, c.isForeignKey = true →
    ∃ parentTable parentColumn, c.referencedTable = some parentTable ∧
      c.referencedColumn = some parentColumn ∧ ∃ r ∈ snapshot.relationships,
        r.key = parentTable ++ "." ++ parentColumn ++ "->" ++ t.name ++ "." ++ c.name
  relationships : snapshot.relationships = firstsOf Relationship.key
    (rows.foreignKeys.map (ForeignKeyRow.relationship snapshot.tables))
  oneToOne : ∀ r ∈ snapshot.relationships, r.cardinality = .oneToOne ↔
    IsUniqueIn snapshot.tables r.childTable r.childColumn

namespace Catalog

section Making

variable {rules : Convention.Resolver} {rows : Rows} {info : DatabaseRow} {analyzedAt : Instant}

theorem map_attachIndexes {β : Type} {g : Table → β}
    (h : ∀ (t : Table) indexes, g { t with indexes := indexes } = g t)
    (indexes : Std.ExtTreeMap String (List Index)) (tables : List Table) :
    (attachIndexes indexes tables).map g = tables.map g := by
  induction tables generalizing indexes with
  | nil => rfl
  | cons t tables ih => rw [attachIndexes, List.map_cons, List.map_cons, h, ih]

theorem schemaAndName_kept : (rows.kept rules).map Table.schemaAndName =
    (firstsOf TableRow.tableName rows.tables).map TableRow.schemaAndName := by
  rw [Rows.kept, map_attachIndexes fun _ _ => rfl, List.map_map, firstOfEachName_eq]
  rfl

theorem nodup_names_kept : ((rows.kept rules).map Table.name).Nodup := by
  have hkept : (rows.kept rules).map Table.schemaAndName = _ := schemaAndName_kept
  have hnames := congrArg (List.map Prod.snd) hkept
  rw [List.map_map, List.map_map] at hnames
  exact hnames ▸ nodup_firstsOf rows.tables

/-- No column is marked before the foreign keys are read. -/
theorem unmarked_kept : ∀ t ∈ rows.kept rules, ∀ c ∈ t.columns, c.isForeignKey = false ∧
    c.referencedTable = none ∧ c.referencedColumn = none := by
  intro t ht c hc
  have hcolumns : t.columns ∈ (rows.kept rules).map Table.columns := List.mem_map_of_mem ht
  rw [Rows.kept, map_attachIndexes fun _ _ => rfl, List.map_map] at hcolumns
  obtain ⟨row, -, hrow⟩ := List.mem_map.1 hcolumns
  rw [← hrow] at hc
  obtain ⟨columnRow, -, rfl⟩ := List.mem_map.1 hc
  exact ⟨rfl, rfl, rfl⟩

/-- Marking leaves the names of tables. -/
theorem schemaAndName_snapshot :
    (rows.snapshot rules info analyzedAt).tables.map Table.schemaAndName =
      (firstsOf TableRow.tableName rows.tables).map TableRow.schemaAndName :=
  (map_markForeignKeys (fun _ _ => rfl) _ _).trans schemaAndName_kept

theorem nodup_names_snapshot :
    ((rows.snapshot rules info analyzedAt).tables.map Table.name).Nodup := by
  rw [Rows.snapshot, map_markForeignKeys fun _ _ => rfl]
  exact nodup_names_kept

variable (distinct : ∀ t ∈ rows.kept rules,
  (t.columns.map Column.name).Nodup ∧ (t.indexes.map Index.name).Nodup)

include distinct

theorem tables_snapshot : (rows.snapshot rules info analyzedAt).tables =
    (rows.kept rules).map (markedTable rows.foreignKeys) :=
  markForeignKeys_eq_map nodup_names_kept (fun t ht => (distinct t ht).1) rows.foreignKeys

theorem relationships_snapshot : (rows.snapshot rules info analyzedAt).relationships =
    firstsOf Relationship.key (rows.foreignKeys.map
      (ForeignKeyRow.relationship (rows.snapshot rules info analyzedAt).tables)) := by
  rw [tables_snapshot distinct, relationship_markedTable]
  exact firstOfEachKey_eq _

/-- What holds of every column of the snapshot is what holds of every marked one. -/
theorem forall_columns_snapshot {P : Table → Column → Prop} :
    (∀ t ∈ (rows.snapshot rules info analyzedAt).tables, ∀ c ∈ t.columns, P t c) ↔
      ∀ t ∈ rows.kept rules, ∀ c ∈ t.columns,
        P (markedTable rows.foreignKeys t) (markedBy rows.foreignKeys t.name c) := by
  rw [tables_snapshot distinct, List.forall_mem_map]
  refine forall₂_congr fun t _ => ?_
  rw [markedTable, List.forall_mem_map]

theorem reflects_snapshot : (rows.snapshot rules info analyzedAt).Reflects rows := by
  refine ⟨schemaAndName_snapshot, ?flagged, ?references, ?linked,
    relationships_snapshot distinct, ?oneToOne⟩
  case flagged =>
    rw [forall_columns_snapshot distinct]
    intro t ht c hc
    rw [name_markedTable, name_markedBy, ← isSome_lastFrom?, markedBy]
    cases lastFrom? rows.foreignKeys t.name c.name with
    | none => simp [(unmarked_kept t ht c hc).1]
    | some row => simp [ForeignKeyRow.markColumn]
  case references =>
    rw [forall_columns_snapshot distinct]
    intro t ht c hc
    rw [name_markedTable, name_markedBy, markedBy]
    cases lastFrom? rows.foreignKeys t.name c.name with
    | none => exact (unmarked_kept t ht c hc).2
    | some row => exact ⟨rfl, rfl⟩
  case linked =>
    rw [forall_columns_snapshot distinct]
    intro t ht c hc hflagged
    rw [name_markedTable, name_markedBy]
    rw [markedBy] at hflagged ⊢
    cases hlast : lastFrom? rows.foreignKeys t.name c.name with
    | none =>
      rw [hlast] at hflagged
      cases (unmarked_kept t ht c hc).1.symm.trans hflagged
    | some row =>
      obtain ⟨hrow, htable, hcolumn⟩ := of_lastFrom? hlast
      obtain ⟨r, hr, hkey⟩ := @exists_mem_firstsOf _ Relationship.key _ _
        (List.mem_map_of_mem (f := ForeignKeyRow.relationship _) hrow)
      rw [← relationships_snapshot distinct] at hr
      rw [← htable, ← hcolumn]
      exact ⟨row.parentTable, row.parentColumn, rfl, rfl, r, hr, hkey.trans key_relationship⟩
  case oneToOne =>
    intro r hr
    rw [relationships_snapshot distinct] at hr
    obtain ⟨row, -, rfl⟩ := List.mem_map.1 ((firstsOf_sublist _).subset hr)
    exact cardinality_eq_oneToOne_iff nodup_names_snapshot

/-- Names apart from blank ones are as they should be. -/
theorem validated_snapshot : (rows.snapshot rules info analyzedAt).validated =
      .ok (rows.snapshot rules info analyzedAt) ∨
    (∃ t ∈ (rows.snapshot rules info analyzedAt).tables, ¬ t.IsNamed) ∧
      (rows.snapshot rules info analyzedAt).validated =
        .error (.validation Snapshot.Defect.blankTableName.message) := by
  refine Snapshot.validated_of_distinct nodup_names_snapshot ?_ ?_
  · rw [tables_snapshot distinct, List.forall_mem_map]
    intro t ht
    simpa [markedTable, Function.comp_def] using distinct t ht
  · rw [relationships_snapshot distinct]
    exact nodup_firstsOf _

end Making

section Introspecting

variable {σ : Type} {step : introspecting.Step σ} {s s' : σ} {rules : Convention.Resolver}
  {rows : Rows} {outcome : Outcome Snapshot}

/-- A query was not answered, or the one for the database not by one row. -/
def Refused (step : introspecting.Step σ) (rows : Rows) (failure : Failure) : Prop :=
  ∃ fault, failure = .database fault ∧ (fault = .rowCount ∧ rows.info.length ≠ 1 ∨
    ∃ q s s', step (.inr q) s (Except.error fault : Except Database.Fault (List q.Row)) s')

theorem failsOnly_query {q : Query} : Procedure.FailsOnly step (Refused step rows) (query q) := by
  intro s failure s' h
  obtain ⟨answer, t, hanswer, h⟩ := Script.runs_bind.1 h
  obtain ⟨hreply, rfl⟩ := Script.runs_pure.1 h
  have hstep := Script.runs_call.1 (Script.runs_right.1 hanswer)
  cases answer with
  | ok rows => cases hreply
  | error fault =>
    cases hreply
    exact ⟨fault, rfl, .inr ⟨q, s, t, hstep⟩⟩

theorem failsOnly_queryOne (answers : rows.Answer step) :
    Procedure.FailsOnly step (Refused step rows) (queryOne .info) := by
  intro s failure s' h
  rcases Procedure.runs_bind_error.1 h with h | ⟨reply, t, hquery, h⟩
  · exact failsOnly_query s failure s' h
  · obtain rfl : reply = rows.info := answers (of_query hquery)
    have hrefused : rows.info.length ≠ 1 → failure = .database .rowCount →
        Refused step rows failure :=
      fun hlength hfailure => ⟨.rowCount, hfailure, .inl ⟨rfl, hlength⟩⟩
    match hinfo : rows.info with
    | [row] =>
      rw [hinfo] at h
      cases (Procedure.runs_pure.1 h).1
    | [] =>
      rw [hinfo] at h hrefused
      cases (Procedure.runs_throw.1 h).1
      exact hrefused nofun rfl
    | _ :: _ :: _ =>
      rw [hinfo] at h hrefused
      cases (Procedure.runs_throw.1 h).1
      exact hrefused (by simp) rfl

theorem failsOnly_readTable (row : TableRow) :
    Procedure.FailsOnly step (Refused step rows) (readTable rules row) :=
  failsOnly_query.bind fun _ => failsOnly_query.bind fun _ => .pure _

theorem of_readTable {row : TableRow} {t : Table} (answers : rows.Answer step)
    (h : Procedure.Runs step (readTable rules row) s (.ok t) s') :
    t = row.table rules (rows.primaryKey row.schemaName row.tableName)
      (rows.columns row.schemaName row.tableName) := by
  obtain ⟨primaryKey, s₁, hprimaryKey, h⟩ := Procedure.runs_bind_ok.1 h
  obtain ⟨columns, s₂, hcolumns, h⟩ := Procedure.runs_bind_ok.1 h
  obtain rfl := answers (of_query hprimaryKey)
  obtain rfl := answers (of_query hcolumns)
  cases (Procedure.runs_pure.1 h).1
  rfl

/-- Unless the catalog refuses an answer, what its rows make is validated. -/
theorem outcome_of_introspect (answers : rows.Answer step)
    (h : Procedure.Runs step (introspect rules) s outcome s') :
    (∃ failure, outcome = .error failure ∧ Refused step rows failure) ∨
      ∃ info analyzedAt, outcome = (rows.snapshot rules info analyzedAt).validated := by
  unfold introspect at h
  rcases Procedure.runs_bind.1 h with ⟨failure, rfl, hfail⟩ | ⟨info, s₁, -, h⟩
  · exact .inl ⟨failure, rfl, failsOnly_queryOne answers _ _ _ hfail⟩
  rcases Procedure.runs_bind.1 h with ⟨failure, rfl, hfail⟩ | ⟨listed, s₂, htables, h⟩
  · exact .inl ⟨failure, rfl, failsOnly_query _ _ _ hfail⟩
  rcases Procedure.runs_bind.1 h with ⟨failure, rfl, hfail⟩ | ⟨tables, s₃, hread, h⟩
  · exact .inl ⟨failure, rfl, Procedure.FailsOnly.mapM failsOnly_readTable _ _ _ _ hfail⟩
  rcases Procedure.runs_bind.1 h with ⟨failure, rfl, hfail⟩ | ⟨indexRows, s₄, hindexes, h⟩
  · exact .inl ⟨failure, rfl, failsOnly_query _ _ _ hfail⟩
  rcases Procedure.runs_bind.1 h with ⟨failure, rfl, hfail⟩ | ⟨foreignKeys, s₅, hkeys, h⟩
  · exact .inl ⟨failure, rfl, failsOnly_query _ _ _ hfail⟩
  rcases Procedure.runs_bind.1 h with ⟨failure, rfl, hfail⟩ | ⟨analyzedAt, s₆, -, h⟩
  · exact absurd (Procedure.runs_left.1 hfail) Procedure.not_runs_ofScript_error
  obtain rfl : listed = rows.tables := answers (of_query htables)
  obtain rfl : indexRows = rows.indexes := answers (of_query hindexes)
  obtain rfl : foreignKeys = rows.foreignKeys := answers (of_query hkeys)
  have hkept := hread.map_mapM (g := id) fun _ _ _ _ => of_readTable answers
  rw [List.map_id] at hkept
  obtain rfl := hkept
  exact .inr ⟨info, analyzedAt, (Procedure.runs_ofOutcome.1 h).1.symm⟩

/-- Where every table gets columns of different names, and indexes, the snapshot reflects the rows
of the catalog: its tables are the first of each name, and marks and relationships tell the same of
foreign keys. Then only a blank table name makes it unusable. -/
theorem introspect_foreignKeys (answers : rows.Answer step)
    (distinct : ∀ t ∈ rows.kept rules,
      (t.columns.map Column.name).Nodup ∧ (t.indexes.map Index.name).Nodup)
    (h : Procedure.Runs step (introspect rules) s outcome s') :
    (∃ failure, outcome = .error failure ∧ Refused step rows failure) ∨
      ∃ snapshot : Snapshot, outcome = snapshot.validated ∧ snapshot.Reflects rows ∧
        (snapshot.validated = .ok snapshot ∨ (∃ t ∈ snapshot.tables, ¬ t.IsNamed) ∧
          snapshot.validated = .error (.validation Snapshot.Defect.blankTableName.message)) := by
  rcases outcome_of_introspect answers h with hrefused | ⟨info, analyzedAt, houtcome⟩
  · exact .inl hrefused
  · exact .inr ⟨_, houtcome, reflects_snapshot distinct, validated_snapshot distinct⟩

end Introspecting

namespace Warehouse

def columnRow (name : String) : ColumnRow :=
  ⟨name, "int", none, none, none, "NO", "NO", "NEVER", none⟩

/-- Two tables have one name. Three foreign keys start from one column, two of them to the same
column, and one from a table that is not listed. -/
def rows : Rows where
  info := [⟨"shop", "local", "16"⟩]
  tables := [⟨"archive", "users"⟩, ⟨"public", "orders"⟩, ⟨"public", "users"⟩]
  primaryKey _ _ := ["id"]
  columns _ table :=
    if table = "orders" then [columnRow "id", columnRow "user"] else [columnRow "id"]
  indexes := [⟨"public", "orders", "by_user", true, false, 1, 1, "user", 0⟩]
  foreignKeys :=
    [⟨"fk_lost", "gone", "x", "users", "id", "a", "a"⟩,
     ⟨"fk_people", "orders", "user", "people", "id", "c", "a"⟩,
     ⟨"fk_users", "orders", "user", "users", "id", "a", "a"⟩,
     ⟨"fk_people_again", "orders", "user", "people", "id", "n", "a"⟩]

def answers : introspecting.Step World :=
  .ofAnswer (Script.answerEither World.answer fun q world => (.ok (rows.answer q), world))

def world : World :=
  ⟨Disk.empty [], ⟨0, 0⟩, 0, false⟩

def idColumn : Column :=
  ⟨"id", "int", none, none, none, false, true, false, false, false, none, none, .none, ∅⟩

/-- What the rows tell. -/
def stocked : Snapshot where
  databaseName := "shop"
  serverName := "local"
  version := "16"
  analyzedAt := ⟨0, 0⟩
  tables :=
    [⟨"users", "archive", [idColumn], [], ["id"]⟩,
     ⟨"orders", "public", [idColumn, { idColumn with
        name := "user", isPrimaryKey := false, isForeignKey := true
        referencedTable := some "people", referencedColumn := some "id" }],
      [⟨"by_user", true, false, ["user"], none, []⟩], ["id"]⟩]
  relationships :=
    [⟨"fk_lost", "users", "id", "gone", "x", .oneToMany, "NoAction", "NoAction"⟩,
     ⟨"fk_people", "people", "id", "orders", "user", .oneToOne, "Cascade", "NoAction"⟩,
     ⟨"fk_users", "users", "id", "orders", "user", .oneToOne, "NoAction", "NoAction"⟩]

theorem introspect_foreignKeys_stocked : rows.Answer answers ∧
    (∀ t ∈ rows.kept [],
      (t.columns.map Column.name).Nodup ∧ (t.indexes.map Index.name).Nodup) ∧
    (∃ world', Procedure.Runs answers (introspect []) world (.ok stocked) world') ∧
    stocked.Reflects rows := by
  have hanswers : rows.Answer answers := by
    intro q s s' reply h
    cases h
    rfl
  have hdistinct : ∀ t ∈ rows.kept [],
      (t.columns.map Column.name).Nodup ∧ (t.indexes.map Index.name).Nodup := by decide
  have hrun : Procedure.Runs answers (introspect []) world (.ok stocked)
      { world with now := World.tick world.now } := Script.runs_ofAnswer.2 rfl
  refine ⟨hanswers, hdistinct, ⟨_, hrun⟩, ?_⟩
  rcases introspect_foreignKeys hanswers hdistinct hrun with
    ⟨_, hfailed, -⟩ | ⟨snapshot, hok, hreflects, hvalidated | ⟨-, hvalidated⟩⟩
  · cases hfailed
  · rw [hvalidated] at hok
    cases hok
    exact hreflects
  · rw [hvalidated] at hok
    cases hok

end Warehouse

end Catalog

end SchemaCodegen
