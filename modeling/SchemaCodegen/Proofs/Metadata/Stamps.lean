import SchemaCodegen.Proofs.Metadata.Settling

/-!
# Stamps

When each table was last generated. Syncing stamps nothing and takes no stamp away
(`Metadata.stampOf_sync`), and stamping changes the stamps of the tables it is told to.
-/

namespace SchemaCodegen

theorem Instant.isBefore_self (t : Instant) : t.isBefore t = false := by
  have hsame : compare t t = .eq := by
    change (compare t.seconds t.seconds).then (compare t.nanos t.nanos) = .eq
    rw [Std.ReflOrd.compare_self, Std.ReflOrd.compare_self]
    rfl
  rw [isBefore, hsame]
  rfl

namespace Metadata

variable {m m' : Metadata} {key : String}

/-- When a table was last generated, if it is known and was generated at all. -/
def stampOf (m : Metadata) (key : String) : Option Instant :=
  m.tables[key]?.bind TableRecord.lastGenerated

theorem stampOf_eq (m : Metadata) (key : String) :
    m.stampOf key = (m.tables[key]?.map TableRecord.lastGenerated).join := by
  rw [stampOf]
  cases m.tables[key]? <;> rfl

/-- A sync stamps nothing and takes no stamp away. -/
theorem stampOf_sync (fresh : RecordKey → Uuid) (now : Instant) (s : Snapshot) (m : Metadata)
    (key : String) : (m.sync fresh now s).1.stampOf key = m.stampOf key := by
  have hkept : (m.sync fresh now s).1.tables[key]?.map TableRecord.lastGenerated =
      (m.tables[key]?.map TableRecord.lastGenerated).or
        ((s.tables.find? (·.qualifiedName == key)).map fun _ => none) :=
    map_getElem?_sync_tables (fun _ => rfl) (fun _ _ => rfl) (fun _ => rfl) key
  rw [stampOf_eq, stampOf_eq, hkept]
  cases m.tables[key]? with
  | some r => rfl
  | none =>
    cases s.tables.find? (·.qualifiedName == key) with
    | some t => rfl
    | none => rfl

theorem stampOf_of_markAllGenerated {keys : List String} {time : Instant}
    (h : m.markAllGenerated keys time = .ok m') (key : String) :
    m'.stampOf key = if key ∈ keys then some time else m.stampOf key := by
  obtain ⟨hknown, rfl⟩ := markAllGenerated_eq_ok_iff.1 h
  rw [stampOf, getElem?_foldl_stamp]
  split
  · next hkey =>
    obtain ⟨r, hr⟩ := Option.isSome_iff_exists.1
      (Std.ExtTreeMap.mem_iff_isSome_getElem?.1 (hknown key hkey))
    rw [hr]
    rfl
  · rfl

/-- The table was generated at the time or later. -/
def IsStampedSince (m : Metadata) (key : String) (time : Instant) : Prop :=
  ∃ stamp, m.stampOf key = some stamp ∧ stamp.isBefore time = false

theorem isStampedSince_sync_iff {fresh : RecordKey → Uuid} {now : Instant} {s : Snapshot}
    {time : Instant} :
    (m.sync fresh now s).1.IsStampedSince key time ↔ m.IsStampedSince key time := by
  rw [IsStampedSince, stampOf_sync, IsStampedSince]

/-- Stamping anew keeps a stamp, unless the new one is of an earlier time. -/
theorem IsStampedSince.markAllGenerated {keys : List String} {time now : Instant}
    (h : m.IsStampedSince key time) (hmarks : m.markAllGenerated keys now = .ok m')
    (hlater : key ∈ keys → now.isBefore time = false) : m'.IsStampedSince key time := by
  rw [IsStampedSince, stampOf_of_markAllGenerated hmarks]
  split
  · next hkey => exact ⟨now, rfl, hlater hkey⟩
  · exact h

theorem isStampedSince_of_markAllGenerated {keys : List String} {time : Instant}
    (hmarks : m.markAllGenerated keys time = .ok m') (hkey : key ∈ keys) :
    m'.IsStampedSince key time := by
  rw [IsStampedSince, stampOf_of_markAllGenerated hmarks, if_pos hkey]
  exact ⟨time, rfl, Instant.isBefore_self time⟩

end Metadata

end SchemaCodegen
