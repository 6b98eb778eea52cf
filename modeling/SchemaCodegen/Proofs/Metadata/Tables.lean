import SchemaCodegen.Metadata.Plan

/-!
# Table records under a sync

A sync comes to the tables of a snapshot one after the other, and each touches one record: it is
refreshed, or created where there was none (`getElem?_syncTableRecord`). So the record under a key
holds the fingerprint of the table that was last seen under it (`Sighted`), whatever was synced
before, and a table is reported as changed exactly when the sync finds another fingerprint at its
key, or none (`news_eq`).
-/

namespace SchemaCodegen

@[simp] theorem tableKey_qualifiedName (t : Table) :
    tableKey t.schemaName t.name = t.qualifiedName := rfl

namespace HashPair

@[simp] theorem current_first (hash : String) : (first hash).current = hash := rfl

@[simp] theorem current_rotate (pair : HashPair) (fresh : String) :
    (pair.rotate fresh).current = fresh := by
  unfold rotate
  split
  · assumption
  · rfl

theorem rotate_eq_self {pair : HashPair} {hash : String} (h : pair.current = hash) :
    pair.rotate hash = pair :=
  if_pos h

@[simp] theorem rotate_first (hash : String) : (first hash).rotate hash = first hash :=
  rotate_eq_self rfl

@[simp] theorem rotate_rotate (pair : HashPair) (fresh : String) :
    (pair.rotate fresh).rotate fresh = pair.rotate fresh :=
  rotate_eq_self (pair.current_rotate fresh)

@[simp] theorem rotates_eq_false_iff (pair : HashPair) (fresh : String) :
    pair.rotates fresh = false ↔ pair.current = fresh := by
  simp [rotates]

end HashPair

/-- What no sync takes from a record: the table that it is of, its flags, and its stamp. -/
structure TableRecord.Continues (r r' : TableRecord) : Prop where
  tableName : r'.tableName = r.tableName
  schemaName : r'.schemaName = r.schemaName
  flags : r'.flags = r.flags
  lastGenerated : r'.lastGenerated = r.lastGenerated

theorem TableRecord.Continues.refl (r : TableRecord) : r.Continues r := ⟨rfl, rfl, rfl, rfl⟩

theorem TableRecord.Continues.trans {r r' r'' : TableRecord} (h : r.Continues r')
    (h' : r'.Continues r'') : r.Continues r'' :=
  ⟨h'.tableName.trans h.tableName, h'.schemaName.trans h.schemaName, h'.flags.trans h.flags,
    h'.lastGenerated.trans h.lastGenerated⟩

/-- Records of one table with one hash history. -/
structure TableRecord.Agrees (r r' : TableRecord) : Prop where
  tableName : r'.tableName = r.tableName
  schemaName : r'.schemaName = r.schemaName
  hash : r'.hash = r.hash

theorem Filed.getElem?_insert {α : Type} (records : Filed α) (k key : String) (r : α) :
    (records.insert k r)[key]? = if key = k then some r else records[key]? := by
  rw [Std.ExtTreeMap.getElem?_insert]
  by_cases h : key = k
  · simp [h]
  · have hne : k ≠ key := fun e => h e.symm
    simp [h, hne]

theorem Filed.getElem?_modify {α : Type} (records : Filed α) (k key : String) (f : α → α) :
    (records.modify k f)[key]? = if key = k then records[key]?.map f else records[key]? := by
  rw [Std.ExtTreeMap.getElem?_modify]
  by_cases h : key = k
  · simp [h]
  · have hne : k ≠ key := fun e => h e.symm
    simp [h, hne]

namespace Metadata

section SyncRecord

variable {fresh : RecordKey → Uuid} {now : Instant} {tables : Filed TableRecord} {t : Table}

/-- The record that a sync leaves for a table where it found `found?`. -/
def syncedRecord (fresh : RecordKey → Uuid) (now : Instant) (t : Table)
    (found? : Option TableRecord) : TableRecord :=
  match found? with
  | some r => r.refresh (Fingerprint.ofTable t) now
  | none => .create (fresh ⟨.table, t.qualifiedName⟩) (Fingerprint.ofTable t) now t

theorem fst_syncTableRecord : (syncTableRecord fresh now tables t).1 =
    tables.insert t.qualifiedName (syncedRecord fresh now t tables[t.qualifiedName]?) := by
  simp only [syncTableRecord]
  split
  · next r hr => rw [hr]; rfl
  · next hr => rw [hr]; rfl

/-- A table's own record is brought up to date; no other one is touched. -/
theorem getElem?_syncTableRecord (key : String) :
    (syncTableRecord fresh now tables t).1[key]? =
      if key = t.qualifiedName then some (syncedRecord fresh now t tables[key]?)
      else tables[key]? := by
  rw [fst_syncTableRecord, Filed.getElem?_insert]
  by_cases hk : key = t.qualifiedName
  · rw [hk]
  · rw [if_neg hk, if_neg hk]

theorem current_syncedRecord (found? : Option TableRecord) :
    (syncedRecord fresh now t found?).hash.current = Fingerprint.ofTable t := by
  cases found? <;> simp [syncedRecord, TableRecord.refresh, TableRecord.create]

theorem isActive_syncedRecord (found? : Option TableRecord) :
    (syncedRecord fresh now t found?).isActive = true := by
  cases found? <;> rfl

theorem syncedRecord_continues (r : TableRecord) :
    r.Continues (syncedRecord fresh now t (some r)) := ⟨rfl, rfl, rfl, rfl⟩

/-- A table is news unless its record is there with its fingerprint. -/
theorem news_eq : (syncTableRecord fresh now tables t).2.2 =
    match tables[t.qualifiedName]? with
    | some r => if r.hash.current = Fingerprint.ofTable t then .unchanged else .modified
    | none => .new := by
  simp only [syncTableRecord]
  cases hr : tables[t.qualifiedName]? with
  | none => rfl
  | some r =>
    by_cases h : r.hash.current = Fingerprint.ofTable t <;> simp [HashPair.rotates, h]

end SyncRecord

/-! ## Syncing all tables -/

section SyncTables

variable {fresh : RecordKey → Uuid} {now : Instant} {p : Progress} {t : Table}

theorem step_tables : (p.step fresh now t).metadata.tables =
    (syncTableRecord fresh now p.metadata.tables t).1 := rfl

theorem step_newTables : (p.step fresh now t).newTables =
    if (syncTableRecord fresh now p.metadata.tables t).2.2 = .new then p.newTables ++ [t.name]
    else p.newTables := rfl

theorem step_modifiedTables : (p.step fresh now t).modifiedTables =
    if (syncTableRecord fresh now p.metadata.tables t).2.2 = .modified then
      p.modifiedTables ++ [t.name]
    else p.modifiedTables := rfl

/-- A table that was reported stays reported. -/
theorem mem_reported_foldl {name : String} (ts : List Table) (p : Progress)
    (h : name ∈ p.newTables ∨ name ∈ p.modifiedTables) :
    name ∈ (ts.foldl (Progress.step fresh now) p).newTables ∨
      name ∈ (ts.foldl (Progress.step fresh now) p).modifiedTables := by
  induction ts generalizing p with
  | nil => exact h
  | cons t ts ih =>
    refine ih _ ?_
    rw [step_newTables, step_modifiedTables]
    rcases h with h | h
    · left
      split <;> simp [h]
    · right
      split <;> simp [h]

/-- A sync that does not report a table found its record, with its fingerprint, when it came to
the table. -/
theorem current_of_not_reported {before after : List Table}
    (h : ¬ (t.name ∈ ((before ++ t :: after).foldl (Progress.step fresh now) p).newTables ∨
      t.name ∈ ((before ++ t :: after).foldl (Progress.step fresh now) p).modifiedTables)) :
    ∃ r, (before.foldl (Progress.step fresh now) p).metadata.tables[t.qualifiedName]? = some r ∧
      r.hash.current = Fingerprint.ofTable t := by
  rw [List.foldl_append, List.foldl_cons] at h
  generalize before.foldl (Progress.step fresh now) p = q at h ⊢
  have hq := mt (mem_reported_foldl after (q.step fresh now t)) h
  rw [step_newTables, step_modifiedTables, news_eq] at hq
  cases hr : q.metadata.tables[t.qualifiedName]? with
  | none => simp [hr] at hq
  | some r =>
    by_cases hcur : r.hash.current = Fingerprint.ofTable t
    · exact ⟨r, rfl, hcur⟩
    · simp [hr, hcur] at hq

theorem of_stamped_foldl {key : String} {r' : TableRecord} (ts : List Table)
    (h : (ts.foldl (Progress.step fresh now) p).metadata.tables[key]? = some r')
    (hstamp : r'.lastGenerated.isSome) :
    ∃ r, p.metadata.tables[key]? = some r ∧ r.Continues r' := by
  induction ts generalizing p with
  | nil => exact ⟨r', h, .refl r'⟩
  | cons t ts ih =>
    obtain ⟨r₁, hr₁, hcont⟩ := ih h
    rw [hcont.lastGenerated] at hstamp
    rw [step_tables, getElem?_syncTableRecord] at hr₁
    split at hr₁
    · cases hr : p.metadata.tables[key]? with
      | none =>
        rw [hr] at hr₁
        cases hr₁
        cases hstamp
      | some r =>
        rw [hr] at hr₁
        cases hr₁
        exact ⟨r, rfl, (syncedRecord_continues r).trans hcont⟩
    · exact ⟨r₁, hr₁, hcont⟩

end SyncTables

/-! ## Sightings -/

/-- The table that was last seen under a key, of all that were seen, the newest first. -/
def lastSeen? (seen : List Table) (key : String) : Option Table :=
  seen.find? (·.qualifiedName == key)

theorem lastSeen?_cons (t : Table) (seen : List Table) (key : String) :
    lastSeen? (t :: seen) key = if key = t.qualifiedName then some t else lastSeen? seen key := by
  by_cases h : key = t.qualifiedName
  · simp [lastSeen?, h]
  · have hne : (t.qualifiedName == key) = false := beq_false_of_ne fun e => h e.symm
    simp [lastSeen?, h, hne]

/-- Every record is filed under the key of its own table and holds the fingerprint of the table
that was last seen under this key. -/
structure Sighted (seen : List Table) (tables : Filed TableRecord) : Prop where
  key_eq : ∀ {key r}, tables[key]? = some r → key = tableKey r.schemaName r.tableName
  current_eq : ∀ {key r}, tables[key]? = some r →
    ∃ t, lastSeen? seen key = some t ∧ r.hash.current = Fingerprint.ofTable t

namespace Sighted

variable {fresh : RecordKey → Uuid} {now : Instant} {seen : List Table}

theorem empty : Sighted [] ∅ :=
  ⟨fun h => by simp at h, fun h => by simp at h⟩

theorem syncTableRecord {tables : Filed TableRecord} (h : Sighted seen tables) (t : Table) :
    Sighted (t :: seen) (syncTableRecord fresh now tables t).1 := by
  refine ⟨fun {key r} hr => ?_, fun {key r} hr => ?_⟩
  · rw [getElem?_syncTableRecord] at hr
    split at hr
    · next hk =>
      subst hk
      cases hr
      cases hf : tables[t.qualifiedName]? with
      | none => rfl
      | some r =>
        have hk := h.key_eq hf
        rwa [(syncedRecord_continues r).tableName, (syncedRecord_continues r).schemaName]
    · exact h.key_eq hr
  · rw [getElem?_syncTableRecord] at hr
    rw [lastSeen?_cons]
    split at hr
    · next hk =>
      cases hr
      exact ⟨t, by rw [if_pos hk], current_syncedRecord _⟩
    · next hk =>
      rw [if_neg hk]
      exact h.current_eq hr

theorem foldl_step (fresh : RecordKey → Uuid) (now : Instant) {p : Progress}
    (h : Sighted seen p.metadata.tables) (ts : List Table) :
    Sighted (ts.reverse ++ seen) (ts.foldl (Progress.step fresh now) p).metadata.tables := by
  induction ts generalizing p seen with
  | nil => exact h
  | cons t ts ih =>
    rw [List.reverse_cons, List.append_assoc]
    exact ih (h.syncTableRecord t)

/-- Changes that leave tables and hashes alone leave the sightings alone. -/
theorem of_map {tables tables' : Filed TableRecord} (h : Sighted seen tables)
    (hmap : ∀ (key : String) (r' : TableRecord), tables'[key]? = some r' →
      ∃ r : TableRecord, tables[key]? = some r ∧ r.Agrees r') :
    Sighted seen tables' := by
  refine ⟨fun {key r'} hr => ?_, fun {key r'} hr => ?_⟩
  · obtain ⟨r, hr, hagrees⟩ := hmap _ _ hr
    rw [hagrees.tableName, hagrees.schemaName]
    exact h.key_eq hr
  · obtain ⟨r, hr, hagrees⟩ := hmap _ _ hr
    rw [hagrees.hash]
    exact h.current_eq hr

end Sighted

/-! ## The whole sync -/

section Sync

variable {fresh : RecordKey → Uuid} {now : Instant} {s : Snapshot} {m : Metadata}

theorem sync_newTables : (m.sync fresh now s).2.newTables =
    (s.tables.foldl (Progress.step fresh now) ⟨m, [], [], 0⟩).newTables := rfl

theorem sync_modifiedTables : (m.sync fresh now s).2.modifiedTables =
    (s.tables.foldl (Progress.step fresh now) ⟨m, [], [], 0⟩).modifiedTables := rfl

theorem sync_tables : (m.sync fresh now s).1.tables =
    retireTables now (s.tables.map Table.qualifiedName)
      (s.tables.foldl (Progress.step fresh now) ⟨m, [], [], 0⟩).metadata.tables := rfl

/-- Switching tables off leaves all else of their records alone. -/
theorem of_getElem?_retireTables {seen : List String} {tables : Filed TableRecord} {key : String}
    {r' : TableRecord} (h : (retireTables now seen tables)[key]? = some r') :
    ∃ r, tables[key]? = some r ∧ r.Continues r' ∧ r'.hash = r.hash := by
  rw [retireTables, Std.ExtTreeMap.getElem?_map, Option.map_eq_some_iff] at h
  obtain ⟨r, hr, rfl⟩ := h
  refine ⟨r, hr, ?_⟩
  split <;> exact ⟨⟨rfl, rfl, rfl, rfl⟩, rfl⟩

theorem Sighted.sync (fresh : RecordKey → Uuid) (now : Instant) (s : Snapshot)
    {seen : List Table} (h : Sighted seen m.tables) :
    Sighted (s.tables.reverse ++ seen) (m.sync fresh now s).1.tables := by
  have hstep := h.foldl_step fresh now (p := ⟨m, [], [], 0⟩) s.tables
  refine hstep.of_map fun key r' hr => ?_
  rw [sync_tables] at hr
  obtain ⟨r, hr, hcont, hhash⟩ := of_getElem?_retireTables hr
  exact ⟨r, hr, hcont.tableName, hcont.schemaName, hhash⟩

/-- A table that is active after a sync is one of the snapshot. -/
theorem mem_names_of_sync {key : String} {r' : TableRecord}
    (h : (m.sync fresh now s).1.tables[key]? = some r') (hactive : r'.isActive) :
    key ∈ s.tables.map Table.qualifiedName := by
  rw [sync_tables, retireTables, Std.ExtTreeMap.getElem?_map, Option.map_eq_some_iff] at h
  obtain ⟨r, -, rfl⟩ := h
  by_cases hkey : key ∈ s.tables.map Table.qualifiedName
  · exact hkey
  · have hgone : isGone (s.tables.map Table.qualifiedName) key r = r.isActive := by
      simp [isGone, hkey]
    rw [hgone] at hactive
    split at hactive
    · cases hactive
    · next hoff => exact absurd hactive hoff

/-- A sync stamps nothing: a record with a stamp had it before. -/
theorem of_stamped_sync {key : String} {r' : TableRecord}
    (h : (m.sync fresh now s).1.tables[key]? = some r') (hstamp : r'.lastGenerated.isSome) :
    ∃ r, m.tables[key]? = some r ∧ r.Continues r' := by
  rw [sync_tables] at h
  obtain ⟨r₁, hr₁, hcont, -⟩ := of_getElem?_retireTables h
  rw [hcont.lastGenerated] at hstamp
  obtain ⟨r, hr, hcont'⟩ := of_stamped_foldl _ hr₁ hstamp
  exact ⟨r, hr, hcont'.trans hcont⟩

end Sync

/-! ## Flags and stamps -/

section Stamps

variable {m m' : Metadata} {key : String} {r' : TableRecord}

theorem of_getElem?_setFlags {changes : List (String × GenerationFlags)}
    (h : (changes.foldl (fun m c => m.setFlags c.1 c.2) m).tables[key]? = some r') :
    ∃ r, m.tables[key]? = some r ∧ r.Agrees r' ∧ r'.lastGenerated = r.lastGenerated := by
  induction changes generalizing m with
  | nil => exact ⟨r', h, ⟨rfl, rfl, rfl⟩, rfl⟩
  | cons change changes ih =>
    obtain ⟨r₁, hr₁, ⟨hname, hschema, hhash⟩, hstamp⟩ := ih h
    change (m.tables.modify change.1 _)[key]? = _ at hr₁
    rw [Filed.getElem?_modify] at hr₁
    split at hr₁
    · obtain ⟨r, hr, rfl⟩ := Option.map_eq_some_iff.1 hr₁
      exact ⟨r, hr, ⟨hname, hschema, hhash⟩, hstamp⟩
    · exact ⟨r₁, hr₁, ⟨hname, hschema, hhash⟩, hstamp⟩

theorem getElem?_foldl_stamp (keys : List String) (time : Instant) (m : Metadata) (key : String) :
    (keys.foldl (fun m key => m.stamp key time) m).tables[key]? =
      if key ∈ keys then m.tables[key]?.map ({ · with lastGenerated := some time })
      else m.tables[key]? := by
  induction keys generalizing m with
  | nil => rfl
  | cons first keys ih =>
    rw [List.foldl_cons, ih]
    change (if key ∈ keys then Option.map _ (m.tables.modify first _)[key]?
      else (m.tables.modify first _)[key]?) = _
    rw [Filed.getElem?_modify]
    by_cases hfirst : key = first
    · rw [if_pos hfirst, hfirst, if_pos List.mem_cons_self, Option.map_map]
      split <;> rfl
    · rw [if_neg hfirst]
      simp only [List.mem_cons, hfirst, false_or]

/-- All tables are stamped if all are known. -/
theorem markAllGenerated_eq_ok_iff {keys : List String} {time : Instant} :
    m.markAllGenerated keys time = .ok m' ↔
      (∀ key ∈ keys, key ∈ m.tables) ∧ m' = keys.foldl (fun m key => m.stamp key time) m := by
  rw [markAllGenerated]
  split
  · next missing hmissing =>
    have hunknown := List.find?_some hmissing
    constructor
    · intro h
      cases h
    · rintro ⟨hknown, -⟩
      have hmem := Std.ExtTreeMap.mem_iff_contains.1
        (hknown missing (List.mem_of_find?_eq_some hmissing))
      rw [hmem] at hunknown
      cases hunknown
  · next hnone =>
    rw [List.find?_eq_none] at hnone
    constructor
    · intro h
      exact ⟨fun key hkey => by simpa using hnone key hkey, (Except.ok.inj h).symm⟩
    · rintro ⟨-, rfl⟩
      rfl

/-- Stamping leaves all but the stamp alone, and stamps only the records it is told to. -/
theorem of_markAllGenerated {keys : List String} {time : Instant}
    (hmark : m.markAllGenerated keys time = .ok m') (h : m'.tables[key]? = some r') :
    ∃ r, m.tables[key]? = some r ∧ r.Agrees r' ∧
      (key ∉ keys → r'.lastGenerated = r.lastGenerated) := by
  obtain ⟨-, rfl⟩ := markAllGenerated_eq_ok_iff.1 hmark
  rw [getElem?_foldl_stamp] at h
  split at h
  · next hkey =>
    obtain ⟨r, hr, rfl⟩ := Option.map_eq_some_iff.1 h
    exact ⟨r, hr, ⟨rfl, rfl, rfl⟩, fun hnot => absurd hkey hnot⟩
  · exact ⟨r', h, ⟨rfl, rfl, rfl⟩, fun _ => rfl⟩

end Stamps

end Metadata

end SchemaCodegen
