import Mathlib.Data.List.Nodup
import Mathlib.Data.List.Perm.Basic
import SchemaCodegen.Proofs.Database.Rows
import SchemaCodegen.Proofs.Metadata.Filing
import SchemaCodegen.Proofs.Repository.Statements

/-!
# Loading what was persisted

A database that keeps the rows it is sent gives them back in an order of its own. Loading files them
by their natural keys again and puts indexes together with their columns, so that all of the
metadata is there as it was (`load_persisted`), except that the times of tables are cut to whole
microseconds.
-/

namespace SchemaCodegen.Repository.Database

open SchemaCodegen.Database

/-! ## Filing -/

section Filing

variable {α : Type} {key : α → String} {records : Filed α} {rs : List α}

/-- Records that are filed again under their own keys, in any order, are filed as they were. -/
theorem fileBy_eq (hkeys : ∀ {k : String} {r : α}, records[k]? = some r → key r = k)
    (hperm : rs.Perm (records.toList.map (·.2))) : fileBy key rs = records := by
  have hmem : ∀ {r : α}, r ∈ rs ↔ ∃ k : String, records[k]? = some r := by
    intro r
    rw [hperm.mem_iff, List.mem_map]
    constructor
    · rintro ⟨e, he, rfl⟩
      exact ⟨e.1, Std.ExtTreeMap.mem_toList_iff_getElem?_eq_some.1 he⟩
    · rintro ⟨k, hr⟩
      exact ⟨(k, r), Std.ExtTreeMap.mem_toList_iff_getElem?_eq_some.2 hr, rfl⟩
  have hnodup : (rs.map key).Nodup := by
    rw [(hperm.map key).nodup_iff, List.map_map]
    have hfst : records.toList.map (key ∘ (·.2)) = records.toList.map Prod.fst :=
      List.map_congr_left fun e he => hkeys (Std.ExtTreeMap.mem_toList_iff_getElem?_eq_some.1 he)
    rw [hfst, Std.ExtTreeMap.map_fst_toList_eq_keys]
    exact Std.ExtTreeMap.nodup_keys
  refine Std.ExtTreeMap.ext_getElem? fun k => ?_
  change (rs.foldl (Filed.file key fun r _ => r) ∅)[k]? = _
  by_cases hk : k ∈ rs.map key
  · obtain ⟨r, hr, rfl⟩ := List.mem_map.1 hk
    rw [Filed.getElem?_foldl_file_of_mem hnodup hr]
    obtain ⟨k, hfiled⟩ := hmem.1 hr
    rw [hkeys hfiled, hfiled]
  · rw [Filed.getElem?_foldl_file_of_not_mem hk, Std.ExtTreeMap.getElem?_empty, eq_comm,
      Option.eq_none_iff_forall_ne_some]
    exact fun r hr => hk (List.mem_map.2 ⟨r, hmem.2 ⟨k, hr⟩, hkeys hr⟩)

end Filing

/-! ## Indexes and their columns -/

/-- The columns of an index among those of all. -/
def columnsOf (columns : List IndexColumnRow) (id : Uuid) : List IndexColumnRecord :=
  (columns.filter (·.indexId = id)).map IndexColumnRow.record

/-- Indexes with different identities each get their own columns. -/
theorem assembleIndexes_eq_map {columns : List IndexColumnRow} {rows : List IndexRow}
    (hids : (rows.map IndexRow.id).Nodup) :
    assembleIndexes columns rows = rows.map fun row => row.record (columnsOf columns row.id) := by
  induction rows generalizing columns with
  | nil => rfl
  | cons row rows ih =>
    rw [List.map_cons, List.nodup_cons] at hids
    rw [assembleIndexes, List.partition_eq_filter_filter, List.map_cons]
    dsimp only
    rw [ih hids.2]
    refine congrArg₂ List.cons rfl (List.map_congr_left fun other hother => ?_)
    have hne : other.id ≠ row.id := fun h => hids.1 (h ▸ List.mem_map_of_mem hother)
    rw [columnsOf, columnsOf, List.filter_filter]
    refine congrArg (fun own => IndexRow.record (own.map IndexColumnRow.record) other)
      (List.filter_congr fun c _ => ?_)
    by_cases hc : c.indexId = other.id <;> simp [hc, hne]

/-- The rows for the columns of indexes, one index after the other. -/
def columnRows (records : List IndexRecord) : List IndexColumnRow :=
  records.flatMap fun r => r.columns.map (.ofRecord r.id)

theorem filter_columnRows {records : List IndexRecord} (hids : (records.map IndexRecord.id).Nodup)
    {r : IndexRecord} (hr : r ∈ records) :
    (columnRows records).filter (·.indexId = r.id) = r.columns.map (.ofRecord r.id) := by
  have hown : ∀ r' : IndexRecord, (r'.columns.map (IndexColumnRow.ofRecord r'.id)).filter
      (·.indexId = r.id) = if r'.id = r.id then r'.columns.map (.ofRecord r'.id) else [] := by
    intro r'
    split
    · next hid => exact List.filter_eq_self.2 (by simp [IndexColumnRow.ofRecord, hid])
    · next hid => exact List.filter_eq_nil_iff.2 (by simp [IndexColumnRow.ofRecord, hid])
  simp only [columnRows, List.filter_flatMap, hown]
  clear hown
  induction records with
  | nil => cases hr
  | cons first records ih =>
    rw [List.map_cons, List.nodup_cons] at hids
    rw [List.flatMap_cons]
    rcases List.mem_cons.1 hr with rfl | hr
    · have hrest : ∀ r' ∈ records, r'.id ≠ r.id :=
        fun r' hr' h => hids.1 (h ▸ List.mem_map_of_mem hr')
      rw [if_pos rfl, List.flatMap_eq_nil_iff.2 fun r' hr' => if_neg (hrest r' hr'),
        List.append_nil]
    · have hne : first.id ≠ r.id := fun h => hids.1 (h ▸ List.mem_map_of_mem hr)
      rw [if_neg hne, List.nil_append, ih hids.2 hr]

/-- Rows of one index that are in the order of their places are its columns. -/
theorem columnsOf_eq {columns : List IndexColumnRow} {records : List IndexRecord}
    (hids : (records.map IndexRecord.id).Nodup) (hperm : columns.Perm (columnRows records))
    (hordered : columns.Pairwise fun a b => a.indexId = b.indexId → a.keyOrdinal ≤ b.keyOrdinal)
    {r : IndexRecord} (hr : r ∈ records)
    (hplaces : r.columns.Pairwise fun a b => a.keyOrdinal < b.keyOrdinal) :
    columnsOf columns r.id = r.columns := by
  have hown : (columnsOf columns r.id).Perm r.columns := by
    have hfiltered := (hperm.filter (·.indexId = r.id)).map IndexColumnRow.record
    rw [filter_columnRows hids hr, List.map_map] at hfiltered
    exact hfiltered.trans (.of_eq (List.map_id _))
  have hsorted : (columnsOf columns r.id).Pairwise fun a b => a.keyOrdinal ≤ b.keyOrdinal := by
    rw [columnsOf, List.pairwise_map]
    refine (hordered.sublist List.filter_sublist).imp_of_mem fun {a b} ha hb h => h ?_
    have hidOf := fun {c : IndexColumnRow} (hc : c ∈ columns.filter (·.indexId = r.id)) =>
      of_decide_eq_true (List.mem_filter.1 hc).2
    rw [hidOf ha, hidOf hb]
  have hnodup : (r.columns.map IndexColumnRecord.keyOrdinal).Nodup := by
    rw [List.Nodup, List.pairwise_map]
    refine hplaces.imp fun {a b} hlt hsame => ?_
    rw [hsame] at hlt
    exact Int32.lt_irrefl hlt
  refine hown.eq_of_pairwise (fun a b ha hb hle hge => ?_) hsorted
    (hplaces.imp Int32.le_of_lt)
  exact List.inj_on_of_nodup_map hnodup (hown.mem_iff.1 ha) hb (Int32.le_antisymm hle hge)

/-! ## Answers -/

/-- The rows that the queries of a load are answered by. -/
structure Rows where
  tables : List TableRow
  columns : List ColumnRow
  indexColumns : List IndexColumnRow
  indexes : List IndexRow
  relationships : List RelationshipRow

namespace Rows

/-- A database with these rows, of which nothing is asked but what loading asks. -/
def answer (rows : Rows) : database.Step Unit
  | .selectTables, _, reply, _ => reply = Except.ok rows.tables
  | .selectColumns, _, reply, _ => reply = Except.ok rows.columns
  | .selectIndexColumns, _, reply, _ => reply = Except.ok rows.indexColumns
  | .selectIndexes, _, reply, _ => reply = Except.ok rows.indexes
  | .selectRelationships, _, reply, _ => reply = Except.ok rows.relationships
  | _, _, _, _ => False

/-- The records of all rows. -/
def metadata (rows : Rows) : Metadata where
  tables := fileBy TableRecord.naturalKey (rows.tables.map TableRow.record)
  columns := fileBy ColumnRecord.naturalKey (rows.columns.map ColumnRow.record)
  indexes := fileBy IndexRecord.naturalKey (assembleIndexes rows.indexColumns rows.indexes)
  relationships :=
    fileBy RelationshipRecord.naturalKey (rows.relationships.map RelationshipRow.record)

/-- A query that is answered hands its rows on. -/
theorem runs_query_iff {rows : Rows} {query : Statement} {α : Type} {result : query.Answer}
    {rest : query.Answer → Work α} {outcome : Outcome α}
    (h : ∀ reply, rows.answer query () reply () ↔ reply = Except.ok result) :
    (execute query >>= rest).Runs rows.answer () outcome () ↔
      (rest result).Runs rows.answer () outcome () :=
  runs_execute_bind_of query result fun reply _ => (h reply).trans (and_iff_left rfl).symm

/-- Loading ends with the records of all rows. -/
theorem runs_load_iff {rows : Rows} {outcome : Outcome Metadata} :
    load.Runs rows.answer () outcome () ↔ outcome = .ok rows.metadata := by
  refine (runs_query_iff fun _ => Iff.rfl).trans <| (runs_query_iff fun _ => Iff.rfl).trans <|
    (runs_query_iff fun _ => Iff.rfl).trans <| (runs_query_iff fun _ => Iff.rfl).trans <|
    (runs_query_iff fun _ => Iff.rfl).trans ?_
  rw [Procedure.runs_pure, eq_self_iff_true, and_true]
  exact eq_comm

/-! ## What was persisted -/

/-- Rows are read from cells that were sent, in any order. -/
def ReadFrom {ρ : Type} (columns : Columns ρ) (rows : List ρ) (sent : List (List Cell)) : Prop :=
  ∃ cells : List (List Cell), cells.Perm sent ∧ cells.map columns.read = rows.map some

theorem ReadFrom.perm {ρ : Type} {columns : Columns ρ} {rows sent : List ρ} {cells : ρ → List Cell}
    (h : ReadFrom columns rows (sent.map cells)) (hcells : ∀ r, columns.read (cells r) = some r) :
    rows.Perm sent := by
  obtain ⟨given, hperm, hread⟩ := h
  have hsome := hperm.map columns.read
  have hback : columns.read ∘ cells = some := funext hcells
  rw [hread, List.map_map, hback] at hsome
  exact (List.map_perm_map_iff fun _ _ => Option.some.inj).1 hsome

end Rows

/-- The values sent with the statements of one kind. -/
def sent (label : String) (log : List Statement) : List (List Cell) :=
  (log.filter (·.label == label)).map Statement.parameters

namespace Rows

/-- The database has kept what it was sent, and the columns of each index are in the order of their
places. -/
structure Keep (rows : Rows) (log : List Statement) : Prop where
  tables : ReadFrom TableRow.columns rows.tables (sent "upsert c_table" log)
  columns : ReadFrom ColumnRow.columns rows.columns (sent "upsert c_column" log)
  indexColumns : ReadFrom IndexColumnRow.columns rows.indexColumns
    (sent "insert c_index_column" log)
  indexes : ReadFrom IndexRow.columns rows.indexes (sent "upsert c_index" log)
  relationships : ReadFrom RelationshipRow.columns rows.relationships
    (sent "upsert c_relationship" log)
  ordered : rows.indexColumns.Pairwise fun a b =>
    a.indexId = b.indexId → a.keyOrdinal ≤ b.keyOrdinal

end Rows

theorem sent_writes (m : Metadata) :
    sent "upsert c_table" (transaction (writes m)) =
      ((m.tables.toList.map (·.2)).map TableRow.ofRecord).map TableRow.cells ∧
    sent "upsert c_column" (transaction (writes m)) =
      ((m.columns.toList.map (·.2)).map ColumnRow.ofRecord).map ColumnRow.cells ∧
    sent "insert c_index_column" (transaction (writes m)) =
      (columnRows (m.indexes.toList.map (·.2))).map IndexColumnRow.cells ∧
    sent "upsert c_index" (transaction (writes m)) =
      ((m.indexes.toList.map (·.2)).map IndexRow.ofRecord).map IndexRow.cells ∧
    sent "upsert c_relationship" (transaction (writes m)) =
      ((m.relationships.toList.map (·.2)).map RelationshipRow.ofRecord).map
        RelationshipRow.cells := by
  refine ⟨?_, ?_, ?_, ?_, ?_⟩ <;>
    simp [sent, transaction, writes, indexWrites, columnRows, Statement.label,
      Statement.parameters, List.filter_map, List.filter_flatMap, List.map_flatMap,
      List.flatMap_map, ← List.map_eq_flatMap, Function.comp_def]

end SchemaCodegen.Repository.Database

namespace SchemaCodegen.Metadata

/-- What a database can tell apart: records are filed under their own keys, indexes have different
identities, and the columns of each index are in the order of their places. -/
structure Storable (m : Metadata) : Prop where
  tableKey : ∀ {k : String} {r : TableRecord}, m.tables[k]? = some r → r.naturalKey = k
  columnKey : ∀ {k : String} {r : ColumnRecord}, m.columns[k]? = some r → r.naturalKey = k
  indexKey : ∀ {k : String} {r : IndexRecord}, m.indexes[k]? = some r → r.naturalKey = k
  relationshipKey : ∀ {k : String} {r : RelationshipRecord}, m.relationships[k]? = some r →
    r.naturalKey = k
  indexIds : (m.indexes.toList.map fun e => e.2.id).Nodup
  places : ∀ {k : String} {r : IndexRecord}, m.indexes[k]? = some r →
    r.columns.Pairwise fun a b => a.keyOrdinal < b.keyOrdinal

/-- The metadata with its times as databases keep them. -/
def inMicroseconds (m : Metadata) : Metadata :=
  { m with tables := m.tables.map fun _ r => r.inMicroseconds }

theorem inMicroseconds_eq_self_iff {m : Metadata} : m.inMicroseconds = m ↔
    ∀ (k : String) (r : TableRecord), m.tables[k]? = some r → r.IsWhole := by
  have hrecords : m.inMicroseconds = m ↔ m.inMicroseconds.tables = m.tables := by
    constructor
    · intro heq
      rw [heq]
    · intro heq
      obtain ⟨tables, columns, indexes, relationships⟩ := m
      exact congrArg (Metadata.mk · columns indexes relationships) heq
  rw [hrecords, Std.ExtTreeMap.ext_getElem?_iff]
  refine forall_congr' fun k => ?_
  rw [inMicroseconds, Std.ExtTreeMap.getElem?_map]
  cases m.tables[k]? with
  | none => simp
  | some r => simp [TableRecord.inMicroseconds_eq_self_iff]

end SchemaCodegen.Metadata

namespace SchemaCodegen.Repository.Database

open SchemaCodegen.Database

variable {m : Metadata} {rows : Rows}

theorem fileBy_tables (h : m.Storable)
    (hrows : rows.tables.Perm ((m.tables.toList.map (·.2)).map TableRow.ofRecord)) :
    fileBy TableRecord.naturalKey (rows.tables.map TableRow.record) = m.inMicroseconds.tables := by
  refine fileBy_eq (fun {k r} hr => ?_) ?_
  · rw [Metadata.inMicroseconds, Std.ExtTreeMap.getElem?_map, Option.map_eq_some_iff] at hr
    obtain ⟨r₀, hr₀, rfl⟩ := hr
    have hkey := h.tableKey hr₀
    exact hkey
  · refine (hrows.map TableRow.record).trans (.of_eq ?_)
    rw [Metadata.inMicroseconds, Std.ExtTreeMap.toList_map]
    simp only [List.map_map]
    rfl

/-- Each index finds its own columns among those of all. -/
theorem assembleIndexes_perm (h : m.Storable)
    (hindexes : rows.indexes.Perm ((m.indexes.toList.map (·.2)).map IndexRow.ofRecord))
    (hcolumns : rows.indexColumns.Perm (columnRows (m.indexes.toList.map (·.2))))
    (hordered : rows.indexColumns.Pairwise fun a b =>
      a.indexId = b.indexId → a.keyOrdinal ≤ b.keyOrdinal) :
    (assembleIndexes rows.indexColumns rows.indexes).Perm (m.indexes.toList.map (·.2)) := by
  have hids : ((m.indexes.toList.map (·.2)).map IndexRecord.id).Nodup := by
    rw [List.map_map]
    exact h.indexIds
  have hrowIds : (rows.indexes.map IndexRow.id).Nodup := by
    rw [(hindexes.map IndexRow.id).nodup_iff, List.map_map]
    exact hids
  rw [assembleIndexes_eq_map hrowIds]
  refine (hindexes.map _).trans (.of_eq ?_)
  rw [List.map_map]
  refine (List.map_congr_left fun r hr => ?_).trans (List.map_id _)
  obtain ⟨e, he, rfl⟩ := List.mem_map.1 hr
  have hplaces := h.places (Std.ExtTreeMap.mem_toList_iff_getElem?_eq_some.1 he)
  rw [Function.comp_apply, IndexRow.ofRecord, columnsOf_eq hids hcolumns hordered hr hplaces]
  rfl

theorem metadata_eq (h : m.Storable) (hrows : rows.Keep (transaction (writes m))) :
    rows.metadata = m.inMicroseconds := by
  obtain ⟨htables, hcolumns, hindexColumns, hindexes, hrelationships, hordered⟩ := hrows
  obtain ⟨hsentTables, hsentColumns, hsentIndexColumns, hsentIndexes, hsentRelationships⟩ :=
    sent_writes m
  rw [hsentTables] at htables
  rw [hsentColumns] at hcolumns
  rw [hsentIndexColumns] at hindexColumns
  rw [hsentIndexes] at hindexes
  rw [hsentRelationships] at hrelationships
  have htablesPerm := htables.perm fun r => r.reads_cells.read_eq
  have hcolumnsPerm := hcolumns.perm fun r => r.reads_cells.read_eq
  have hindexColumnsPerm := hindexColumns.perm fun r => r.reads_cells.read_eq
  have hindexesPerm := hindexes.perm fun r => r.reads_cells.read_eq
  have hrelationshipsPerm := hrelationships.perm fun r => r.reads_cells.read_eq
  rw [Rows.metadata, fileBy_tables h htablesPerm,
    fileBy_eq h.columnKey ((hcolumnsPerm.map ColumnRow.record).trans (.of_eq ?columns)),
    fileBy_eq h.indexKey (assembleIndexes_perm h hindexesPerm hindexColumnsPerm hordered),
    fileBy_eq h.relationshipKey
      ((hrelationshipsPerm.map RelationshipRow.record).trans (.of_eq ?relationships))]
  · rfl
  case columns =>
    rw [List.map_map]
    exact (List.map_congr_left fun r _ => ColumnRow.record_ofRecord r).trans (List.map_id _)
  case relationships =>
    rw [List.map_map]
    exact (List.map_congr_left fun r _ => RelationshipRow.record_ofRecord r).trans (List.map_id _)

/-- The rows in the order in which they are sent. -/
def Rows.ofMetadata (m : Metadata) : Rows where
  tables := (m.tables.toList.map (·.2)).map TableRow.ofRecord
  columns := (m.columns.toList.map (·.2)).map ColumnRow.ofRecord
  indexColumns := columnRows (m.indexes.toList.map (·.2))
  indexes := (m.indexes.toList.map (·.2)).map IndexRow.ofRecord
  relationships := (m.relationships.toList.map (·.2)).map RelationshipRow.ofRecord

theorem readFrom_cells {ρ : Type} {columns : Columns ρ} {cells : ρ → List Cell}
    (hcells : ∀ r, columns.read (cells r) = some r) (rows : List ρ) :
    Rows.ReadFrom columns rows (rows.map cells) := by
  refine ⟨_, .refl _, ?_⟩
  rw [List.map_map]
  exact List.map_congr_left fun r _ => hcells r

theorem Rows.keep_ofMetadata (h : m.Storable) :
    (ofMetadata m).Keep (transaction (writes m)) := by
  obtain ⟨htables, hcolumns, hindexColumns, hindexes, hrelationships⟩ := sent_writes m
  refine ⟨htables ▸ readFrom_cells (fun r => r.reads_cells.read_eq) _,
    hcolumns ▸ readFrom_cells (fun r => r.reads_cells.read_eq) _,
    hindexColumns ▸ readFrom_cells (fun r => r.reads_cells.read_eq) _,
    hindexes ▸ readFrom_cells (fun r => r.reads_cells.read_eq) _,
    hrelationships ▸ readFrom_cells (fun r => r.reads_cells.read_eq) _, ?_⟩
  refine List.pairwise_flatMap.2 ⟨fun r hr => ?_, ?_⟩
  · obtain ⟨e, he, rfl⟩ := List.mem_map.1 hr
    have hplaces := h.places (Std.ExtTreeMap.mem_toList_iff_getElem?_eq_some.1 he)
    refine List.pairwise_map.2 (hplaces.imp ?_)
    exact fun hlt _ => Int32.le_of_lt hlt
  · -- rows of different indexes have different identities
    have hids := h.indexIds
    rw [List.Nodup, List.pairwise_map] at hids
    refine List.pairwise_map.2 (hids.imp fun {e e'} hne row hrow row' hrow' hsame => ?_)
    obtain ⟨c, -, rfl⟩ := List.mem_map.1 hrow
    obtain ⟨c', -, rfl⟩ := List.mem_map.1 hrow'
    exact absurd hsame hne

/-- Loading what was persisted gives all of it back, with the times of tables cut to whole
microseconds; so it is the same where these times have nothing that is cut. -/
theorem load_persisted {log : List Statement} (h : m.Storable)
    (hpersist : (persist m).Runs accepted [] (.ok ()) log) (hrows : rows.Keep log) :
    (∀ outcome, load.Runs rows.answer () outcome () ↔ outcome = .ok m.inMicroseconds) ∧
      (m.inMicroseconds = m ↔
        ∀ (k : String) (r : TableRecord), m.tables[k]? = some r → r.IsWhole) := by
  obtain ⟨-, rfl⟩ := runs_persist_iff.1 hpersist
  rw [List.nil_append] at hrows
  refine ⟨fun outcome => ?_, Metadata.inMicroseconds_eq_self_iff⟩
  rw [Rows.runs_load_iff, metadata_eq h hrows]

end SchemaCodegen.Repository.Database

/-! ### A time that does not fit -/

namespace SchemaCodegen.Metadata.Precise

open Database Repository.Database

/-- Synced one nanosecond after a full second. -/
def table : TableRecord :=
  ⟨.ofNumber 1, "dbo.T", "T", "dbo", ⟨"h", none⟩, true, none, ⟨1700000000, 1⟩, .standard⟩

def index : IndexRecord :=
  ⟨.ofNumber 2, .ofNumber 1, "dbo.T.IX", "IX", true, false,
    [⟨"b", 1, true, false⟩, ⟨"a", 2, false, true⟩], ⟨"h'", some "h"⟩, false⟩

def metadata : Metadata :=
  ⟨(∅ : Filed TableRecord).insert "dbo.T" table, ∅, (∅ : Filed IndexRecord).insert "dbo.T.IX" index,
    ∅⟩

theorem storable : metadata.Storable := by
  have htable : ∀ {k : String} {r : TableRecord}, metadata.tables[k]? = some r →
      k = "dbo.T" ∧ r = table := by
    intro k r hr
    rw [metadata, Filed.getElem?_insert] at hr
    split at hr
    · next hk => exact ⟨hk, (Option.some.inj hr).symm⟩
    · simp at hr
  have hindex : ∀ {k : String} {r : IndexRecord}, metadata.indexes[k]? = some r →
      k = "dbo.T.IX" ∧ r = index := by
    intro k r hr
    rw [metadata, Filed.getElem?_insert] at hr
    split at hr
    · next hk => exact ⟨hk, (Option.some.inj hr).symm⟩
    · simp at hr
  refine ⟨fun hr => ?_, fun hr => ?_, fun hr => ?_, fun hr => ?_, by decide, fun hr => ?_⟩
  · obtain ⟨rfl, rfl⟩ := htable hr
    rfl
  · simp [metadata] at hr
  · obtain ⟨rfl, rfl⟩ := hindex hr
    rfl
  · simp [metadata] at hr
  · obtain ⟨rfl, rfl⟩ := hindex hr
    decide

theorem load_rows : metadata.Storable ∧
    (persist metadata).Runs accepted [] (.ok ()) (transaction (writes metadata)) ∧
    (Rows.ofMetadata metadata).Keep (transaction (writes metadata)) ∧
    (∀ outcome, load.Runs (Rows.ofMetadata metadata).answer () outcome () ↔
      outcome = .ok metadata.inMicroseconds) ∧
    (metadata.inMicroseconds = metadata ↔
      ∀ (k : String) (r : TableRecord), metadata.tables[k]? = some r → r.IsWhole) := by
  have hpersist : (persist metadata).Runs accepted [] (.ok ()) (transaction (writes metadata)) :=
    runs_persist_iff.2 ⟨rfl, rfl⟩
  exact ⟨storable, hpersist, Rows.keep_ofMetadata storable,
    load_persisted storable hpersist (Rows.keep_ofMetadata storable)⟩

/-- The nanosecond is gone when the table is loaded again. -/
theorem not_restored : metadata.Storable ∧
    (persist metadata).Runs accepted [] (.ok ()) (transaction (writes metadata)) ∧
    (Rows.ofMetadata metadata).Keep (transaction (writes metadata)) ∧
    ¬ load.Runs (Rows.ofMetadata metadata).answer () (.ok metadata) () := by
  have hkeep := Rows.keep_ofMetadata storable
  refine ⟨storable, runs_persist_iff.2 ⟨rfl, rfl⟩, hkeep, fun hload => ?_⟩
  have hsame := Rows.runs_load_iff.1 hload
  rw [metadata_eq storable hkeep, Except.ok.injEq, eq_comm, inMicroseconds_eq_self_iff] at hsame
  have hwhole := hsame "dbo.T" table (by simp [metadata])
  exact absurd hwhole.2.2 (by decide)

end SchemaCodegen.Metadata.Precise
