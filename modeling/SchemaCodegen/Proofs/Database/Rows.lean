import SchemaCodegen.Database.Row

/-!
# Reading rows back

A row that is sent cell by cell is read back as it was, since the cells of every kind of row stand
in the order of its columns (`TableRow.read_cells` and its companions). So is every record behind a
row, up to the times of tables, of which rows keep whole microseconds only
(`TableRow.record_ofRecord`).
-/

namespace SchemaCodegen

namespace Database

namespace Columns

variable {α β : Type}

/-- Cells that fill the columns are read as a value. -/
structure Reads (columns : Columns α) (cells : List Cell) (a : α) : Prop where
  length_eq : columns.columns.length = cells.length
  read_eq : columns.read cells = some a

namespace Reads

variable {name : String}

theorem bool (b : Bool) : (Columns.bool name).Reads [.bool b] b := ⟨rfl, rfl⟩

theorem integer (n : Int32) : (Columns.integer name).Reads [.integer n] n := ⟨rfl, rfl⟩

theorem text (s : String) : (Columns.text name).Reads [.text s] s := ⟨rfl, rfl⟩

theorem id (i : Uuid) : (Columns.id name).Reads [.id i] i := ⟨rfl, rfl⟩

theorem time (t : Instant) : (Columns.time name).Reads [.time t] t := ⟨rfl, rfl⟩

/-- A missing value is null, and nothing else is. -/
theorem nullable {column : Columns α} {cell : α → Cell} (h : ∀ a, column.Reads [cell a] a)
    (hnull : ∀ a, cell a ≠ .null) (width : column.columns.length = 1) (a? : Option α) :
    column.nullable.Reads [.ofOption cell a?] a? := by
  refine ⟨width, ?_⟩
  cases a? with
  | none => rfl
  | some a =>
    simp only [Cell.ofOption, Columns.nullable]
    split
    · next hcells => exact absurd (List.cons.inj hcells).1 (hnull a)
    · rw [(h a).read_eq, Option.map_some]

theorem nullableText (s? : Option String) :
    (Columns.nullable (.text name)).Reads [.ofOption .text s?] s? :=
  nullable text (fun _ => nofun) rfl s?

theorem nullableInteger (n? : Option Int32) :
    (Columns.nullable (.integer name)).Reads [.ofOption .integer n?] n? :=
  nullable integer (fun _ => nofun) rfl n?

theorem nullableTime (t? : Option Instant) :
    (Columns.nullable (.time name)).Reads [.ofOption .time t?] t? :=
  nullable time (fun _ => nofun) rfl t?

theorem seq {f : Columns (α → β)} {x : Columns α} {cells cells' : List Cell} {g : α → β} {a : α}
    (hf : f.Reads cells g) (hx : x.Reads cells' a) : (f <*> x).Reads (cells ++ cells') (g a) := by
  refine ⟨?_, ?_⟩
  · change (f.columns ++ x.columns).length = _
    rw [List.length_append, hf.length_eq, hx.length_eq, List.length_append]
  · change (do
      let g ← f.read ((cells ++ cells').take f.columns.length)
      return g (← x.read ((cells ++ cells').drop f.columns.length))) = _
    rw [hf.length_eq, List.take_left, List.drop_left, hf.read_eq, hx.read_eq]
    rfl

theorem map {column : Columns α} {cells : List Cell} {a : α} (f : α → β)
    (h : column.Reads cells a) : (f <$> column).Reads cells (f a) :=
  have hpure : (Columns.pure f).Reads [] f := ⟨rfl, rfl⟩
  hpure.seq h

end Reads

end Columns

section Cells

open Columns

theorem TableRow.reads_cells (r : TableRow) : TableRow.columns.Reads r.cells r := by
  have h : TableRow.columns.Reads _ r :=
    (Reads.map TableRow.mk (.id r.id)) |>.seq (.text r.naturalKey) |>.seq (.text r.tableName)
      |>.seq (.text r.schemaName) |>.seq (.text r.hash) |>.seq (.nullableText r.previousHash)
      |>.seq (.bool r.isActive) |>.seq (.nullableTime r.lastGenerated)
      |>.seq (.time r.lastSynced) |>.seq (.bool r.generateEntity)
      |>.seq (.bool r.generateRepository) |>.seq (.bool r.generateController)
      |>.seq (.bool r.generateReactUi) |>.seq (.bool r.generateStoredProcedures)
      |>.seq (.bool r.generateCqrs)
  simpa only [cells, List.cons_append, List.nil_append] using h

theorem ColumnRow.reads_cells (r : ColumnRow) : ColumnRow.columns.Reads r.cells r := by
  have h : ColumnRow.columns.Reads _ r :=
    (Reads.map ColumnRow.mk (.id r.id)) |>.seq (.id r.tableId) |>.seq (.text r.naturalKey)
      |>.seq (.text r.columnName) |>.seq (.text r.dataType) |>.seq (.nullableInteger r.maxLength)
      |>.seq (.nullableInteger r.precision) |>.seq (.nullableInteger r.scale)
      |>.seq (.bool r.isNullable) |>.seq (.bool r.isPrimaryKey) |>.seq (.bool r.isIdentity)
      |>.seq (.bool r.isComputed) |>.seq (.bool r.isForeignKey)
      |>.seq (.nullableText r.referencedTable) |>.seq (.nullableText r.referencedColumn)
      |>.seq (.text r.convention) |>.seq (.text r.hash) |>.seq (.nullableText r.previousHash)
      |>.seq (.bool r.isActive)
  simpa only [cells, List.cons_append, List.nil_append] using h

theorem IndexRow.reads_cells (r : IndexRow) : IndexRow.columns.Reads r.cells r := by
  have h : IndexRow.columns.Reads _ r :=
    (Reads.map IndexRow.mk (.id r.id)) |>.seq (.id r.tableId) |>.seq (.text r.naturalKey)
      |>.seq (.text r.indexName) |>.seq (.bool r.isUnique) |>.seq (.bool r.isClustered)
      |>.seq (.text r.hash) |>.seq (.nullableText r.previousHash) |>.seq (.bool r.isActive)
  simpa only [cells, List.cons_append, List.nil_append] using h

theorem IndexColumnRow.reads_cells (r : IndexColumnRow) :
    IndexColumnRow.columns.Reads r.cells r := by
  have h : IndexColumnRow.columns.Reads _ r :=
    (Reads.map IndexColumnRow.mk (.id r.indexId)) |>.seq (.text r.columnName)
      |>.seq (.integer r.keyOrdinal) |>.seq (.bool r.isDescending) |>.seq (.bool r.isIncluded)
  simpa only [cells, List.cons_append, List.nil_append] using h

theorem RelationshipRow.reads_cells (r : RelationshipRow) :
    RelationshipRow.columns.Reads r.cells r := by
  have h : RelationshipRow.columns.Reads _ r :=
    (Reads.map RelationshipRow.mk (.id r.id)) |>.seq (.text r.naturalKey)
      |>.seq (.text r.foreignKeyName) |>.seq (.text r.parentTable) |>.seq (.text r.parentColumn)
      |>.seq (.text r.childTable) |>.seq (.text r.childColumn) |>.seq (.text r.cardinality)
      |>.seq (.text r.onDelete) |>.seq (.text r.onUpdate) |>.seq (.text r.hash)
      |>.seq (.nullableText r.previousHash) |>.seq (.bool r.isActive)
  simpa only [cells, List.cons_append, List.nil_append] using h

end Cells

end Database

/-! ## Records -/

theorem Convention.ofText?_display (c : Convention) : ofText? c.display = some c := by
  cases c <;> decide

theorem Cardinality.ofName_name (c : Cardinality) : ofName c.name = c := by
  cases c <;> rfl

/-- A time that databases keep as it is. -/
def Instant.IsWhole (t : Instant) : Prop :=
  t.nanos < 1000000000 ∧ t.nanos % 1000 = 0

theorem Instant.toMicroseconds_eq_self_iff {t : Instant} : t.toMicroseconds = t ↔ t.IsWhole := by
  constructor
  · intro h
    have hnanos : (t.databaseMicroseconds % 1000000).toNat * 1000 = t.nanos :=
      congrArg Instant.nanos h
    constructor <;> omega
  · rintro ⟨hbound, hwhole⟩
    have hmicros : t.databaseMicroseconds =
        (t.seconds - databaseEpoch) * 1000000 + (t.nanos / 1000 : Nat) := by
      have hproduct : (t.seconds - databaseEpoch) * 1000000000 + t.nanos =
          1000 * ((t.seconds - databaseEpoch) * 1000000 + (t.nanos / 1000 : Nat)) := by omega
      rw [databaseMicroseconds, hproduct, Int.mul_tdiv_cancel_left _ (by decide)]
    rw [toMicroseconds, hmicros]
    obtain ⟨seconds, nanos⟩ := t
    simp only [Instant.mk.injEq] at hbound hwhole ⊢
    constructor <;> omega

/-- The record with its times as databases keep them. -/
def TableRecord.inMicroseconds (r : TableRecord) : TableRecord :=
  { r with
    lastGenerated := r.lastGenerated.map Instant.toMicroseconds
    lastSynced := r.lastSynced.toMicroseconds }

/-- Both times of the record are kept by databases as they are. -/
def TableRecord.IsWhole (r : TableRecord) : Prop :=
  (∀ t ∈ r.lastGenerated, t.IsWhole) ∧ r.lastSynced.IsWhole

theorem TableRecord.inMicroseconds_eq_self_iff {r : TableRecord} :
    r.inMicroseconds = r ↔ r.IsWhole := by
  obtain ⟨id, naturalKey, tableName, schemaName, hash, isActive, generated?, synced, flags⟩ := r
  have hgenerated : generated?.map Instant.toMicroseconds = generated? ↔
      ∀ t ∈ generated?, t.IsWhole := by
    cases generated? with
    | none => simp
    | some t => simp [Instant.toMicroseconds_eq_self_iff]
  simp only [inMicroseconds, TableRecord.mk.injEq, IsWhole, hgenerated,
    Instant.toMicroseconds_eq_self_iff, true_and, and_true]

namespace Database

theorem TableRow.record_ofRecord (r : TableRecord) : (ofRecord r).record = r.inMicroseconds := rfl

theorem ColumnRow.record_ofRecord (r : ColumnRecord) : (ofRecord r).record = r := by
  rw [record, ofRecord, Convention.ofText?_display, Option.getD_some]

theorem IndexRow.record_ofRecord (r : IndexRecord) : (ofRecord r).record r.columns = r := rfl

theorem IndexColumnRow.record_ofRecord (indexId : Uuid) (r : IndexColumnRecord) :
    (ofRecord indexId r).record = r := rfl

theorem RelationshipRow.record_ofRecord (r : RelationshipRecord) : (ofRecord r).record = r := by
  rw [record, ofRecord, Cardinality.ofName_name]

end Database

end SchemaCodegen
