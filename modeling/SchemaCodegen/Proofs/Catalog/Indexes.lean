import Mathlib.Data.List.Induction
import Mathlib.Data.List.Nodup
import Mathlib.Data.List.Sublists
import SchemaCodegen.Catalog.Introspection
import SchemaCodegen.Proofs.Metadata.Filing
import SchemaCodegen.Proofs.Script.Runs

/-!
# Indexes from their rows

The catalog lists the columns of all indexes in one list of rows. Where the rows of each index
follow one another and no two tables have the same qualified name, every table gets one index for
each name in its rows, and each index the columns that its rows tell of (`introspect_indexes`).
-/

namespace SchemaCodegen

def Table.schemaAndName (t : Table) : String × String :=
  (t.schemaName, t.name)

namespace Catalog

/-! ## Rows that follow one another -/

/-- Between two rows with one key there are only rows with this key. -/
def Consecutive {α κ : Type} (key : α → κ) (rows : List α) : Prop :=
  ∀ first middle last, [first, middle, last].Sublist rows → key first = key last →
    key middle = key last

instance {α κ : Type} [DecidableEq κ] (key : α → κ) (rows : List α) :
    Decidable (Consecutive key rows) :=
  decidable_of_iff (∀ triple ∈ rows.sublistsLen 3, (triple.map key)[0]? = (triple.map key)[2]? →
      (triple.map key)[1]? = (triple.map key)[2]?) (by
    constructor
    · intro h first middle last hsub hkey
      have htriple := h [first, middle, last] (List.mem_sublistsLen.2 ⟨hsub, rfl⟩)
      simpa using htriple (congrArg some hkey)
    · intro h triple htriple
      obtain ⟨hsub, hlen⟩ := List.mem_sublistsLen.1 htriple
      obtain ⟨first, middle, last, rfl⟩ := List.length_eq_three.1 hlen
      simpa using h first middle last hsub)

section Consecutive

variable {α κ : Type} {key : α → κ} {rows rows' : List α} {row : α}

theorem Consecutive.sublist (h : Consecutive key rows) (hsub : rows'.Sublist rows) :
    Consecutive key rows' :=
  fun first middle last hsub' => h first middle last (hsub'.trans hsub)

/-- A row whose key occurred before follows a row with this key. -/
theorem Consecutive.getLast?_eq (h : Consecutive key (rows ++ [row]))
    (hmem : key row ∈ rows.map key) : (rows.map key).getLast? = some (key row) := by
  obtain ⟨first, hfirst, hkey⟩ := List.mem_map.1 hmem
  cases rows using List.reverseRecOn with
  | nil => cases hfirst
  | append_singleton rows last =>
    rw [List.map_append, List.map_singleton, List.getLast?_concat]
    rcases List.mem_append.1 hfirst with hfirst | hfirst
    · have hsub : [first, last, row].Sublist (rows ++ [last] ++ [row]) :=
        ((List.singleton_sublist.2 hfirst).append (.refl [last])).append (.refl [row])
      exact congrArg some (h first last row hsub hkey)
    · rw [List.mem_singleton.1 hfirst] at hkey
      exact congrArg some hkey

end Consecutive

theorem eraseDups_concat {names : List String} {name : String} :
    (names ++ [name]).eraseDups =
      if name ∈ names then names.eraseDups else names.eraseDups ++ [name] := by
  rw [List.eraseDups_append]
  split
  · next h => simp [List.removeAll, h]
  · next h => simp [List.removeAll, h, List.eraseDups_cons]

theorem nodup_eraseDups (names : List String) : names.eraseDups.Nodup := by
  induction names using List.reverseRecOn with
  | nil => exact List.nodup_nil
  | append_singleton names name ih =>
    rw [eraseDups_concat]
    split
    · exact ih
    · next h =>
      refine ih.append (List.nodup_singleton name) ?_
      intro name' hmem hmem'
      rw [List.mem_singleton.1 hmem', List.mem_eraseDups] at hmem
      exact h hmem

/-- The name that was last found new is the name of the last row. -/
theorem Consecutive.getLast?_eraseDups {α : Type} {key : α → String} {rows : List α}
    (h : Consecutive key rows) : (rows.map key).eraseDups.getLast? = (rows.map key).getLast? := by
  induction rows using List.reverseRecOn with
  | nil => rfl
  | append_singleton rows row ih =>
    rw [List.map_append, List.map_singleton, eraseDups_concat, List.getLast?_concat]
    split
    · next hmem =>
      rw [ih (h.sublist (List.sublist_append_left _ _)), h.getLast?_eq hmem]
    · rw [List.getLast?_concat]

/-! ## What the rows of an index tell -/

/-- The lowest bit of a key column's options is set. -/
theorem IndexRow.isDescending_eq (row : IndexRow) :
    row.isDescending = row.options.toBitVec[0] := by
  have hbits : (row.options &&& 1 = 1) ↔ row.options.toBitVec &&& 1#32 = 1#32 := by
    rw [← Int32.toBitVec_inj, Int32.toBitVec_and]
    rfl
  rw [isDescending, Bool.eq_iff_iff, beq_iff_eq, hbits,
    BitVec.and_one_eq_setWidth_ofBool_getLsbD, BitVec.getLsbD_eq_getElem (by decide)]
  cases row.options.toBitVec[0] <;> decide

/-- The rows of the key columns. -/
def keyRows (rows : List IndexRow) : List IndexRow :=
  rows.filter fun row => row.place ≤ row.keyCount

/-- The rows of the columns that are carried without being part of the key. -/
def carriedRows (rows : List IndexRow) : List IndexRow :=
  rows.filter fun row => row.keyCount < row.place

/-- A list of columns that is missing if it is empty. -/
def unlessEmpty : List String → Option (List String)
  | [] => none
  | columns => some columns

/-- The index that its rows tell of: the columns of its key, those of them that are sorted
downwards, the columns that are only carried, and whatever the first row says of the index. -/
def gather (name : String) (rows : List IndexRow) : Index where
  name := name
  isUnique := (rows.head?.map IndexRow.isUnique).getD false
  isClustered := (rows.head?.map IndexRow.isClustered).getD false
  columns := (keyRows rows).map IndexRow.columnName
  includedColumns := unlessEmpty ((carriedRows rows).map IndexRow.columnName)
  descendingColumns :=
    ((keyRows rows).filter (·.options.toBitVec[0])).map IndexRow.columnName

/-- The rows of one index. -/
def rowsNamed (rows : List IndexRow) (name : String) : List IndexRow :=
  rows.filter (·.indexName = name)

/-- One index for each name in the rows, in their order. -/
def indexesOf (rows : List IndexRow) : List Index :=
  (rows.map IndexRow.indexName).eraseDups.map fun name =>
    gather name (rowsNamed rows name)

section Gathering

variable {rows : List IndexRow} {row : IndexRow} {name : String}

theorem unlessEmpty_concat {columns : List String} {column : String} :
    unlessEmpty (columns ++ [column]) = some ((unlessEmpty columns).getD [] ++ [column]) := by
  cases columns <;> rfl

theorem keyRows_concat :
    keyRows (rows ++ [row]) = if row.isIncluded then keyRows rows else keyRows rows ++ [row] := by
  by_cases h : row.keyCount < row.place
  · simp [keyRows, IndexRow.isIncluded, h, Int32.not_le.2 h]
  · simp [keyRows, IndexRow.isIncluded, h, Int32.not_lt.1 h]

theorem carriedRows_concat : carriedRows (rows ++ [row]) =
    if row.isIncluded then carriedRows rows ++ [row] else carriedRows rows := by
  by_cases h : row.keyCount < row.place
  · simp [carriedRows, IndexRow.isIncluded, h]
  · simp [carriedRows, IndexRow.isIncluded, h]

/-- One more row adds its column to the index, and leaves the flags of the first row. -/
theorem gather_concat (h : rows ≠ []) :
    gather name (rows ++ [row]) = row.extend (gather name rows) := by
  obtain ⟨first, rest, rfl⟩ := List.exists_cons_of_ne_nil h
  rw [gather, keyRows_concat, carriedRows_concat, IndexRow.extend, IndexRow.isDescending_eq]
  cases row.isIncluded with
  | true => simp [gather, unlessEmpty_concat]
  | false =>
    cases hdescending : row.options.toBitVec[0] with
    | true => simp [gather, hdescending]
    | false => simp [gather, hdescending]

theorem gather_singleton : gather row.indexName [row] = row.extend row.start := by
  rw [← List.nil_append [row], gather, keyRows_concat, carriedRows_concat, IndexRow.extend,
    IndexRow.isDescending_eq]
  cases row.isIncluded with
  | true => rfl
  | false =>
    cases hdescending : row.options.toBitVec[0] with
    | true => simp [keyRows, carriedRows, unlessEmpty, IndexRow.start, hdescending]
    | false => simp [keyRows, carriedRows, unlessEmpty, IndexRow.start, hdescending]

theorem rowsNamed_concat_self :
    rowsNamed (rows ++ [row]) row.indexName = rowsNamed rows row.indexName ++ [row] := by
  simp [rowsNamed]

theorem rowsNamed_concat_of_ne (h : row.indexName ≠ name) :
    rowsNamed (rows ++ [row]) name = rowsNamed rows name := by
  simp [rowsNamed, h]

theorem rowsNamed_eq_nil_iff : rowsNamed rows name = [] ↔ name ∉ rows.map IndexRow.indexName := by
  simp [rowsNamed]

/-- A row with a new name begins another index. -/
theorem indexesOf_concat_of_not_mem (h : row.indexName ∉ rows.map IndexRow.indexName) :
    indexesOf (rows ++ [row]) = indexesOf rows ++ [row.extend row.start] := by
  rw [indexesOf, List.map_append, List.map_singleton, eraseDups_concat, if_neg h, List.map_append,
    List.map_singleton, rowsNamed_concat_self, rowsNamed_eq_nil_iff.2 h, List.nil_append,
    gather_singleton]
  refine congrArg (· ++ _) (List.map_congr_left fun name hname => ?_)
  have hne : row.indexName ≠ name := by
    rintro rfl
    exact h (List.mem_eraseDups.1 hname)
  rw [rowsNamed_concat_of_ne hne]

/-- A row with the name that was last found new goes on with its index. -/
theorem indexesOf_concat_of_last {names : List String}
    (h : (rows.map IndexRow.indexName).eraseDups = names ++ [row.indexName]) :
    indexesOf (rows ++ [row]) = (names.map fun name => gather name (rowsNamed rows name)) ++
      [row.extend (gather row.indexName (rowsNamed rows row.indexName))] := by
  have hmem : row.indexName ∈ rows.map IndexRow.indexName := by
    rw [← List.mem_eraseDups, h]
    exact List.mem_append_right _ List.mem_cons_self
  have hown : rowsNamed rows row.indexName ≠ [] := fun hnil => rowsNamed_eq_nil_iff.1 hnil hmem
  rw [indexesOf, List.map_append, List.map_singleton, eraseDups_concat, if_pos hmem, h,
    List.map_append, List.map_singleton, rowsNamed_concat_self, gather_concat hown]
  refine congrArg (· ++ _) (List.map_congr_left fun name hname => ?_)
  have hne : row.indexName ≠ name := by
    rintro rfl
    have hnodup := nodup_eraseDups (rows.map IndexRow.indexName)
    rw [h] at hnodup
    exact List.disjoint_of_nodup_append hnodup hname List.mem_cons_self
  rw [rowsNamed_concat_of_ne hne]

/-- Adding the rows one by one gathers the rows of each index. -/
theorem foldl_addIndexRow_eq (h : Consecutive IndexRow.indexName rows) :
    rows.foldl addIndexRow [] = indexesOf rows := by
  induction rows using List.reverseRecOn with
  | nil => rfl
  | append_singleton rows row ih =>
    have hrows := h.sublist (List.sublist_append_left rows [row])
    rw [List.foldl_append, ih hrows, List.foldl_cons, List.foldl_nil, addIndexRow]
    by_cases hmem : row.indexName ∈ rows.map IndexRow.indexName
    -- As rows follow one another, the index that the row belongs to is the last one.
    · obtain ⟨names, hnames⟩ := List.getLast?_eq_some_iff.1
        (hrows.getLast?_eraseDups.trans (h.getLast?_eq hmem))
      rw [indexesOf_concat_of_last hnames, indexesOf, hnames, List.map_append, List.map_singleton,
        List.getLast?_concat]
      simp [gather]
    -- No index has the name of the row yet, the last one included.
    · rw [indexesOf_concat_of_not_mem hmem]
      split
      · next i hlast =>
        have hname : i.name ∈ rows.map IndexRow.indexName := by
          obtain ⟨name, hname, rfl⟩ := List.mem_map.1 (List.mem_of_getLast? hlast)
          exact List.mem_eraseDups.1 hname
        rw [if_neg fun hsame : i.name = row.indexName => hmem (hsame ▸ hname)]
      · next hlast =>
        rw [List.getLast?_eq_none_iff.1 hlast, List.nil_append]

end Gathering

/-! ## The rows of each table -/

/-- The rows of one table. -/
def rowsOf (rows : List IndexRow) (schema table : String) : List IndexRow :=
  rows.filter fun row => row.schemaName = schema ∧ row.tableName = table

/-- What an index is known by throughout a database. -/
def IndexRow.identity (row : IndexRow) : String × String × String :=
  (row.schemaName, row.tableName, row.indexName)

/-- Each of the tables is told from the others by its qualified name. -/
def Unambiguous (tables : List (String × String)) : Prop :=
  ∀ p ∈ tables, ∀ q ∈ tables, p.1 ++ "." ++ p.2 = q.1 ++ "." ++ q.2 → p = q

instance (tables : List (String × String)) : Decidable (Unambiguous tables) :=
  inferInstanceAs (Decidable (∀ p ∈ tables, ∀ q ∈ tables, _ → p = q))

def TableRow.schemaAndName (row : TableRow) : String × String :=
  (row.schemaName, row.tableName)

/-- The schema and the name of the table that an index belongs to. -/
def IndexRow.schemaAndTable (row : IndexRow) : String × String :=
  (row.schemaName, row.tableName)

section Tables

variable {rows : List IndexRow} {schema table : String}

theorem consecutive_rowsOf (h : Consecutive IndexRow.identity rows) :
    Consecutive IndexRow.indexName (rowsOf rows schema table) := by
  intro first middle last hsub hname
  have hown : ∀ row ∈ [first, middle, last], row.schemaName = schema ∧ row.tableName = table := by
    intro row hrow
    simpa using (List.mem_filter.1 (hsub.subset hrow)).2
  simp only [List.forall_mem_cons] at hown
  obtain ⟨⟨hschema, htable⟩, -, ⟨hschema', htable'⟩, -⟩ := hown
  have hidentity : first.identity = last.identity := by
    simp only [IndexRow.identity, hschema, htable, hschema', htable', hname]
  have hmiddle := h.sublist List.filter_sublist first middle last hsub hidentity
  exact congrArg (·.2.2) hmiddle

theorem shownAfter_addIndexRow (indexes : List Index) :
    Filed.shownAfter (fun row found? => addIndexRow (found?.getD []) row) rows (some indexes) =
      some (rows.foldl addIndexRow indexes) := by
  induction rows generalizing indexes with
  | nil => rfl
  | cons row rows ih => exact ih (addIndexRow indexes row)

/-- What stands under a key comes from the rows with this key. -/
theorem getElem?_indexesByTable (rows : List IndexRow) (key : String) :
    (indexesByTable rows)[key]? = if rows.filter (·.tableKey == key) = [] then none else
      some ((rows.filter (·.tableKey == key)).foldl addIndexRow []) := by
  have hfile : indexesByTable rows = rows.foldl (Filed.file IndexRow.tableKey
      fun row found? => addIndexRow (found?.getD []) row) ∅ := by
    simp only [indexesByTable, Std.ExtTreeMap.getD_eq_getD_getElem?]
    rfl
  have hshown : (indexesByTable rows)[key]?.map id = Filed.shownAfter
      (fun row found? => addIndexRow (found?.getD []) row) (rows.filter (·.tableKey == key))
      none := by
    rw [hfile]
    exact Filed.map_getElem?_foldl_file_eq _ (fun _ found? => by rw [Option.map_id]; rfl) rows key
  rw [Option.map_id, id_eq] at hshown
  rw [hshown]
  cases rows.filter (·.tableKey == key) with
  | nil => rfl
  | cons row own => exact shownAfter_addIndexRow (addIndexRow [] row)

variable {tables : List (String × String)}

/-- The rows with the qualified name of a table are those of the table. -/
theorem filter_tableKey_eq (told : Unambiguous tables)
    (hrows : ∀ row ∈ rows, row.schemaAndTable ∈ tables) (hmem : (schema, table) ∈ tables) :
    rows.filter (·.tableKey == schema ++ "." ++ table) = rowsOf rows schema table := by
  refine List.filter_congr fun row hrow => ?_
  rw [Bool.eq_iff_iff, beq_iff_eq, decide_eq_true_iff]
  constructor
  · intro hkey
    have hsame : row.schemaAndTable = (schema, table) := told _ (hrows row hrow) _ hmem hkey
    exact Prod.mk.inj hsame
  · rintro ⟨hschema, htable⟩
    rw [IndexRow.tableKey, hschema, htable]

/-- Where qualified names tell tables apart, under that of a table stand the indexes of its
rows. -/
theorem getElem?_indexesByTable_of_mem (h : Consecutive IndexRow.identity rows)
    (told : Unambiguous tables) (hrows : ∀ row ∈ rows, row.schemaAndTable ∈ tables)
    (hmem : (schema, table) ∈ tables) : (indexesByTable rows)[schema ++ "." ++ table]? =
      if rowsOf rows schema table = [] then none
      else some (indexesOf (rowsOf rows schema table)) := by
  rw [getElem?_indexesByTable, filter_tableKey_eq told hrows hmem,
    foldl_addIndexRow_eq (consecutive_rowsOf h)]

theorem getD_indexesByTable_of_mem (h : Consecutive IndexRow.identity rows)
    (told : Unambiguous tables) (hrows : ∀ row ∈ rows, row.schemaAndTable ∈ tables)
    (hmem : (schema, table) ∈ tables) :
    (indexesByTable rows).getD (schema ++ "." ++ table) [] =
      indexesOf (rowsOf rows schema table) := by
  rw [Std.ExtTreeMap.getD_eq_getD_getElem?, getElem?_indexesByTable_of_mem h told hrows hmem]
  split
  · next hnone =>
    rw [hnone]
    rfl
  · rfl

end Tables

/-! ## Tables with their indexes -/

section Attaching

variable {indexes : Std.ExtTreeMap String (List Index)} {tables : List Table}

/-- Tables with different qualified names each get what stands under their own. -/
theorem attachIndexes_eq_map (h : (tables.map Table.qualifiedName).Nodup) :
    attachIndexes indexes tables =
      tables.map fun t => { t with indexes := indexes.getD t.qualifiedName [] } := by
  induction tables generalizing indexes with
  | nil => rfl
  | cons t tables ih =>
    rw [List.map_cons, List.nodup_cons] at h
    rw [attachIndexes, ih h.2, List.map_cons]
    refine congrArg _ (List.map_congr_left fun t' ht' => ?_)
    have hne : t.qualifiedName ≠ t'.qualifiedName := fun hsame =>
      h.1 (hsame ▸ List.mem_map_of_mem ht')
    rw [Std.ExtTreeMap.getD_erase, if_neg (by simpa using hne)]

theorem map_modifyFirst {α β : Type} {p : α → Bool} {f : α → α} {g : α → β}
    (h : ∀ a, g (f a) = g a) (as : List α) : (modifyFirst p f as).map g = as.map g := by
  induction as with
  | nil => rfl
  | cons a as ih =>
    rw [modifyFirst]
    split
    · rw [List.map_cons, List.map_cons, h]
    · rw [List.map_cons, List.map_cons, ih]

/-- Marking columns leaves a table its name, its schema and its indexes. -/
theorem map_markForeignKeys {β : Type} {g : Table → β}
    (h : ∀ (row : ForeignKeyRow) t, g (row.markTable t) = g t) (tables : List Table)
    (rows : List ForeignKeyRow) : (markForeignKeys tables rows).map g = tables.map g := by
  induction rows generalizing tables with
  | nil => rfl
  | cons row rows ih => exact (ih (row.mark tables)).trans (map_modifyFirst (h row) tables)

/-- What was seen does not come again, and neither does what comes. -/
theorem nodup_firstOfEachName (seen : List String) (rows : List TableRow) :
    ((firstOfEachName seen rows).map TableRow.tableName).Nodup ∧
      ∀ row ∈ firstOfEachName seen rows, row ∈ rows ∧ row.tableName ∉ seen := by
  induction rows generalizing seen with
  | nil => exact ⟨.nil, fun _ h => nomatch h⟩
  | cons row rows ih =>
    rw [firstOfEachName]
    split
    · exact ⟨(ih seen).1, fun row' h => ⟨.tail _ ((ih seen).2 row' h).1, ((ih seen).2 row' h).2⟩⟩
    · next hseen =>
      obtain ⟨hnodup, hrest⟩ := ih (row.tableName :: seen)
      have hnew : row.tableName ∉ (firstOfEachName (row.tableName :: seen) rows).map
          TableRow.tableName := by
        intro hmem
        obtain ⟨row', hrow', hname⟩ := List.mem_map.1 hmem
        exact (hrest row' hrow').2 (hname ▸ List.mem_cons_self)
      refine ⟨List.nodup_cons.2 ⟨hnew, hnodup⟩, List.forall_mem_cons.2 ⟨⟨.head _, ?_⟩, ?_⟩⟩
      · simpa using hseen
      · intro row' hrow'
        obtain ⟨hmem, hfresh⟩ := hrest row' hrow'
        exact ⟨.tail _ hmem, fun h => hfresh (.tail _ h)⟩

end Attaching

/-! ## Introspection -/

/-- Whatever else the catalog answers, these are its tables and the columns of its indexes. -/
structure Lists {σ : Type} (step : introspecting.Step σ) (tableRows : List TableRow)
    (rows : List IndexRow) : Prop where
  tables : ∀ {s s'} {reply : List TableRow},
    step (.inr .tables) s (Except.ok reply : Except Database.Fault _) s' → reply = tableRows
  indexes : ∀ {s s'} {reply : List IndexRow},
    step (.inr .indexes) s (Except.ok reply : Except Database.Fault _) s' → reply = rows

section Introspecting

variable {σ : Type} {step : introspecting.Step σ} {s s' : σ} {rules : Convention.Resolver}
  {tableRows : List TableRow} {rows : List IndexRow} {snapshot : Snapshot}

/-- The rows that come of a query are those that answered it. -/
theorem of_query {q : Query} {reply : List q.Row}
    (h : Procedure.Runs step (query q) s (.ok reply) s') :
    step (.inr q) s (Except.ok reply : Except Database.Fault _) s' := by
  obtain ⟨answer, t, hanswer, h⟩ := Script.runs_bind.1 h
  obtain ⟨hreply, rfl⟩ := Script.runs_pure.1 h
  have hstep := Script.runs_call.1 (Script.runs_right.1 hanswer)
  cases answer with
  | error fault => cases hreply
  | ok rows =>
    cases hreply
    exact hstep

theorem schemaAndName_of_readTable {row : TableRow} {t : Table}
    (h : Procedure.Runs step (readTable rules row) s (.ok t) s') :
    t.schemaAndName = row.schemaAndName := by
  obtain ⟨primaryKey, s₁, -, h⟩ := Procedure.runs_bind_ok.1 h
  obtain ⟨columns, s₂, -, h⟩ := Procedure.runs_bind_ok.1 h
  cases (Procedure.runs_pure.1 h).1
  rfl

/-- The tables of a snapshot are those that the catalog lists, with their indexes attached and
their columns marked. -/
theorem tables_of_introspect (lists : Lists step tableRows rows)
    (h : Procedure.Runs step (introspect rules) s (.ok snapshot) s') :
    ∃ tables foreignKeys, tables.map Table.schemaAndName =
        (firstOfEachName [] tableRows).map TableRow.schemaAndName ∧
      snapshot.tables =
        markForeignKeys (attachIndexes (indexesByTable rows) tables) foreignKeys := by
  obtain ⟨info, s₁, -, h⟩ := Procedure.runs_bind_ok.1 h
  obtain ⟨listed, s₂, htables, h⟩ := Procedure.runs_bind_ok.1 h
  obtain ⟨tables, s₃, hread, h⟩ := Procedure.runs_bind_ok.1 h
  obtain ⟨indexRows, s₄, hindexes, h⟩ := Procedure.runs_bind_ok.1 h
  obtain ⟨foreignKeys, s₅, -, h⟩ := Procedure.runs_bind_ok.1 h
  obtain ⟨analyzedAt, s₆, -, h⟩ := Procedure.runs_bind_ok.1 h
  cases lists.tables (of_query htables)
  cases lists.indexes (of_query hindexes)
  refine ⟨tables, foreignKeys, hread.map_mapM fun _ _ _ _ => schemaAndName_of_readTable, ?_⟩
  have hvalidated := (Procedure.runs_ofOutcome.1 h).1
  rw [Snapshot.validated] at hvalidated
  split at hvalidated
  · cases hvalidated
  · cases hvalidated
    rfl

/-- Tables with different names have different qualified names, if these tell tables apart. -/
theorem nodup_qualifiedName {tables : List Table} (hnames : (tables.map Table.name).Nodup)
    (told : Unambiguous (tables.map Table.schemaAndName)) :
    (tables.map Table.qualifiedName).Nodup := by
  refine List.pairwise_map.2 ((List.pairwise_map.1 hnames).imp_of_mem ?_)
  intro t t' ht ht' hname hqualified
  have hsame := told _ (List.mem_map_of_mem ht) _ (List.mem_map_of_mem ht') hqualified
  exact hname (congrArg Prod.snd hsame)

/-- The tables of a snapshot have different names, all of which the catalog lists. -/
theorem names_of_listed {tables : List Table} (h : tables.map Table.schemaAndName =
      (firstOfEachName [] tableRows).map TableRow.schemaAndName) :
    (tables.map Table.name).Nodup ∧
      tables.map Table.schemaAndName ⊆ tableRows.map TableRow.schemaAndName := by
  obtain ⟨hnodup, hlisted⟩ := nodup_firstOfEachName [] tableRows
  constructor
  · have hnames := congrArg (List.map Prod.snd) h
    rw [List.map_map, List.map_map] at hnames
    exact hnames ▸ hnodup
  · rw [h]
    exact List.map_subset _ fun row hrow => (hlisted row hrow).1

/-- Every table of a snapshot has what stands under its qualified name. -/
theorem indexes_of_introspect (lists : Lists step tableRows rows)
    (told : Unambiguous (tableRows.map TableRow.schemaAndName))
    (h : Procedure.Runs step (introspect rules) s (.ok snapshot) s') :
    ∀ t ∈ snapshot.tables, t.schemaAndName ∈ tableRows.map TableRow.schemaAndName ∧
      t.indexes = (indexesByTable rows).getD t.qualifiedName [] := by
  obtain ⟨tables, foreignKeys, hlisted, hsnapshot⟩ := tables_of_introspect lists h
  obtain ⟨hnames, hsub⟩ := names_of_listed hlisted
  have hdistinct := nodup_qualifiedName hnames fun p hp q hq => told p (hsub hp) q (hsub hq)
  -- Columns are all that marking changes, so names and indexes can be read off before it.
  have hshown := map_markForeignKeys (g := fun t => (t.schemaAndName, t.indexes))
    (fun _ _ => rfl) (attachIndexes (indexesByTable rows) tables) foreignKeys
  rw [← hsnapshot, attachIndexes_eq_map hdistinct, List.map_map] at hshown
  intro t ht
  have hmem := List.mem_map_of_mem (f := fun t => (t.schemaAndName, t.indexes)) ht
  rw [hshown] at hmem
  obtain ⟨t', ht', hsame⟩ := List.mem_map.1 hmem
  obtain ⟨hpair : t'.schemaAndName = t.schemaAndName, hindexes⟩ := Prod.mk.inj hsame
  have hqualified : t'.qualifiedName = t.qualifiedName :=
    congrArg (fun p : String × String => p.1 ++ "." ++ p.2) hpair
  rw [← hindexes, ← hqualified, ← hpair]
  exact ⟨hsub (List.mem_map_of_mem (f := Table.schemaAndName) ht'), rfl⟩

/-- Where the rows of each index follow one another and qualified names tell tables apart, what
stands under the name of a table is one index for each name in its rows, nothing stands under
other names, and in every snapshot each table has the indexes that its own rows tell of. -/
theorem introspect_indexes (lists : Lists step tableRows rows)
    (consecutive : Consecutive IndexRow.identity rows)
    (told : Unambiguous (tableRows.map TableRow.schemaAndName ++
      rows.map IndexRow.schemaAndTable)) :
    (∀ row ∈ rows, (indexesByTable rows)[row.tableKey]? =
      some (indexesOf (rowsOf rows row.schemaName row.tableName))) ∧
    (∀ key, key ∉ rows.map IndexRow.tableKey → (indexesByTable rows)[key]? = none) ∧
    ∀ rules s snapshot s', Procedure.Runs step (introspect rules) s (.ok snapshot) s' →
      ∀ t ∈ snapshot.tables, t.indexes = indexesOf (rowsOf rows t.schemaName t.name) := by
  have hrows : ∀ row ∈ rows, row.schemaAndTable ∈
      tableRows.map TableRow.schemaAndName ++ rows.map IndexRow.schemaAndTable :=
    fun row hrow => List.mem_append_right _ (List.mem_map_of_mem hrow)
  refine ⟨?_, ?_, ?_⟩
  · intro row hrow
    have hown : rowsOf rows row.schemaName row.tableName ≠ [] :=
      List.ne_nil_of_mem (List.mem_filter.2 ⟨hrow, by simp⟩)
    rw [IndexRow.tableKey,
      getElem?_indexesByTable_of_mem consecutive told hrows (hrows row hrow), if_neg hown]
  · intro key hkey
    rw [getElem?_indexesByTable, if_pos]
    refine List.filter_eq_nil_iff.2 fun row hrow hsame => ?_
    exact hkey (List.mem_map.2 ⟨row, hrow, beq_iff_eq.1 hsame⟩)
  · intro rules s snapshot s' h t ht
    have hlisted : Unambiguous (tableRows.map TableRow.schemaAndName) := fun p hp q hq =>
      told p (List.mem_append_left _ hp) q (List.mem_append_left _ hq)
    obtain ⟨hmem, hindexes⟩ := indexes_of_introspect lists hlisted h t ht
    rw [hindexes, Table.qualifiedName]
    exact getD_indexesByTable_of_mem consecutive told hrows (List.mem_append_left _ hmem)

end Introspecting

namespace Sample

def tableRows : List TableRow :=
  [⟨"public", "orders"⟩, ⟨"public", "users"⟩]

/-- Two neighbouring tables with indexes of one name. That of the first carries a column, and both
have a column that is sorted downwards. -/
def indexRows : List IndexRow :=
  [⟨"public", "orders", "by_name", true, false, 1, 1, "name", 3⟩,
   ⟨"public", "orders", "by_name", true, false, 1, 2, "total", 0⟩,
   ⟨"public", "users", "by_name", false, false, 2, 1, "name", 0⟩,
   ⟨"public", "users", "by_name", false, false, 2, 2, "born", 1⟩]

/-- A catalog that lists the tables and their indexes, but neither columns nor keys. -/
def answer : (call : catalog.Call) → World → catalog.Reply call × World
  | .info, world => (.ok [(⟨"shop", "local", "16"⟩ : DatabaseRow)], world)
  | .tables, world => (.ok tableRows, world)
  | .indexes, world => (.ok indexRows, world)
  | .primaryKey _ _, world => (.ok [], world)
  | .columns _ _, world => (.ok [], world)
  | .foreignKeys, world => (.ok [], world)

def world : World :=
  ⟨Disk.empty [], ⟨0, 0⟩, 0, false⟩

def answers : introspecting.Step World :=
  .ofAnswer (Script.answerEither World.answer answer)

/-- What the rows of the catalog tell. -/
def shop : Snapshot where
  databaseName := "shop"
  serverName := "local"
  version := "16"
  analyzedAt := ⟨0, 0⟩
  tables :=
    [⟨"orders", "public", [], [⟨"by_name", true, false, ["name"], some ["total"], ["name"]⟩], []⟩,
     ⟨"users", "public", [], [⟨"by_name", false, false, ["name", "born"], none, ["born"]⟩], []⟩]
  relationships := []

theorem lists_answers : Lists answers tableRows indexRows where
  tables h := by
    cases h
    rfl
  indexes h := by
    cases h
    rfl

theorem introspect_indexes_shop :
    Lists answers tableRows indexRows ∧ Consecutive IndexRow.identity indexRows ∧
      Unambiguous (tableRows.map TableRow.schemaAndName ++
        indexRows.map IndexRow.schemaAndTable) ∧
      (∃ world', Procedure.Runs answers (introspect []) world (.ok shop) world') ∧
      ∀ t ∈ shop.tables, t.indexes = indexesOf (rowsOf indexRows t.schemaName t.name) := by
  have hconsecutive : Consecutive IndexRow.identity indexRows := by decide
  have told : Unambiguous (tableRows.map TableRow.schemaAndName ++
      indexRows.map IndexRow.schemaAndTable) := by decide
  have hrun : Procedure.Runs answers (introspect []) world (.ok shop)
      { world with now := World.tick world.now } := Script.runs_ofAnswer.2 rfl
  obtain ⟨-, -, hattached⟩ := introspect_indexes lists_answers hconsecutive told
  exact ⟨lists_answers, hconsecutive, told, ⟨_, hrun⟩, hattached _ _ _ _ hrun⟩

end Sample

end Catalog

end SchemaCodegen
