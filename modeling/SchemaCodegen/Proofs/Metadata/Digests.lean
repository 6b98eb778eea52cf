import Mathlib.Data.List.Destutter
import SchemaCodegen.Proofs.Metadata.Lineage

/-!
# Hash histories over many syncs

A record keeps two fingerprints of all that were ever taken under its key. They are the last two of
the sequence without its repetitions (`HashPair.ofHashes`), whatever else happens in between:
entities that disappear, stay away and come back, tables that are stamped, flags that are set
(`hashes_after`). So the two never agree, and every active table counts as changed.
-/

namespace SchemaCodegen

namespace HashPair

/-- What two slots keep of the fingerprints that were taken one after the other: the last one, and
the one before its last change. -/
def ofHashes (hashes : List String) : Option HashPair :=
  let kept := hashes.destutter (· ≠ ·)
  kept.getLast?.map fun current => ⟨current, kept.dropLast.getLast?⟩

/-- The history after one more fingerprint. -/
def next (hash : String) : Option HashPair → HashPair
  | none => first hash
  | some pair => pair.rotate hash

theorem destutter'_concat (a : String) (l : List String) (b : String) :
    (l ++ [b]).destutter' (· ≠ ·) a =
      if (l.destutter' (· ≠ ·) a).getLast? = some b then l.destutter' (· ≠ ·) a
      else l.destutter' (· ≠ ·) a ++ [b] := by
  induction l generalizing a with
  | nil =>
    by_cases h : a = b <;> simp [h]
  | cons c l ih =>
    by_cases h : a = c
    · simp only [List.cons_append, List.destutter'_cons, h, ne_eq, not_true_eq_false, if_false, ih]
    · -- the first element stays in front, so the last one is that of the rest
      have hlast : (a :: l.destutter' (· ≠ ·) c).getLast? = (l.destutter' (· ≠ ·) c).getLast? := by
        obtain ⟨d, ds, hds⟩ :=
          List.exists_cons_of_ne_nil (List.destutter'_ne_nil l (· ≠ ·) (a := c))
        rw [hds, List.getLast?_cons_cons]
      rw [List.cons_append, List.destutter'_cons_pos (h := h), List.destutter'_cons_pos (h := h),
        ih, hlast]
      split <;> rfl

/-- One more fingerprint is kept unless it is the last one. -/
theorem ofHashes_concat (hashes : List String) (hash : String) :
    ofHashes (hashes ++ [hash]) = some (next hash (ofHashes hashes)) := by
  cases hashes with
  | nil => rfl
  | cons a l =>
    have hne := List.destutter'_ne_nil l (· ≠ ·) (a := a)
    simp only [ofHashes, List.cons_append, List.destutter_cons', destutter'_concat]
    rw [List.getLast?_eq_getLast_of_ne_nil hne]
    by_cases h : (l.destutter' (· ≠ ·) a).getLast hne = hash
    · simp [h, next, rotate, List.getLast?_eq_getLast_of_ne_nil hne]
    · simp [h, next, rotate, List.getLast?_eq_getLast_of_ne_nil hne]

theorem shownAfter_ofHashes {β : Type} (digest : β → String) (hashes : List String) (bs : List β) :
    Filed.shownAfter (fun b => next (digest b)) bs (ofHashes hashes) =
      ofHashes (hashes ++ bs.map digest) := by
  induction bs generalizing hashes with
  | nil => rw [List.map_nil, List.append_nil]; rfl
  | cons b bs ih =>
    have hstep : Filed.shownAfter (fun b => next (digest b)) (b :: bs) (ofHashes hashes) =
        Filed.shownAfter (fun b => next (digest b)) bs (ofHashes (hashes ++ [digest b])) := by
      rw [ofHashes_concat]
      rfl
    rw [hstep, ih, List.map_cons, List.append_assoc, List.singleton_append]

/-- The two slots never agree, since what is kept has no repetitions. -/
theorem previous_ne_of_ofHashes {hashes : List String} {pair : HashPair}
    (h : ofHashes hashes = some pair) : pair.previous ≠ some pair.current := by
  induction hashes using List.reverseRecOn generalizing pair with
  | nil => cases h
  | append_singleton hashes hash ih =>
    rw [ofHashes_concat, Option.some_inj] at h
    subst h
    cases hbefore : ofHashes hashes with
    | none => exact nofun
    | some before =>
      rw [next, rotate]
      split
      · exact ih hbefore
      · next hnew => exact fun hsame => hnew (Option.some_inj.1 hsame)

/-- A change that is taken back still leaves its trace. -/
example : ofHashes ["a", "a", "b", "a", "a"] = some ⟨"a", some "b"⟩ := by decide

end HashPair

namespace Filed

variable {α β : Type} {key digest : β → String} {hash : α → HashPair} {seen : List β}
  {records records' : Filed α}

/-- Every record holds what is recalled of the fingerprints that were taken under its key, and
there is one wherever any were. -/
def Recalls (key digest : β → String) (seen : List β) (hash : α → HashPair)
    (records : Filed α) : Prop :=
  ∀ k : String, records[k]?.map hash = HashPair.ofHashes ((seen.filter (key · == k)).map digest)

namespace Recalls

theorem empty : Recalls key digest [] hash (∅ : Filed α) := fun k => by simp [HashPair.ofHashes]

theorem append {bs : List β} (h : Recalls key digest seen hash records)
    (heq : ∀ k : String, records'[k]?.map hash =
      shownAfter (fun b => HashPair.next (digest b)) (bs.filter (key · == k))
        (records[k]?.map hash)) :
    Recalls key digest (seen ++ bs) hash records' := by
  intro k
  rw [heq k, h k, HashPair.shownAfter_ofHashes, List.filter_append, List.map_append]

theorem previous_ne (h : Recalls key digest seen hash records) {pair : HashPair}
    (hpair : pair ∈ records.toList.map fun e => hash e.2) :
    pair.previous ≠ some pair.current := by
  obtain ⟨e, he, rfl⟩ := List.mem_map.1 hpair
  have hrecalled := h e.1
  rw [Std.ExtTreeMap.mem_toList_iff_getElem?_eq_some.1 he, Option.map_some] at hrecalled
  exact HashPair.previous_ne_of_ofHashes hrecalled.symm

end Recalls

end Filed

namespace Metadata

/-- The hash histories of all records. -/
def hashPairs (m : Metadata) : List HashPair :=
  m.tables.toList.map (·.2.hash) ++ m.columns.toList.map (·.2.hash) ++
    m.indexes.toList.map (·.2.hash) ++ m.relationships.toList.map (·.2.hash)

/-- What may be done to metadata. -/
inductive Operation where
  | sync (fresh : RecordKey → Uuid) (now : Instant) (s : Snapshot)
  | markGenerated (schema name : String) (time : Instant)
  | markAllGenerated (keys : List String) (time : Instant)
  | setFlags (key : String) (flags : GenerationFlags)

namespace Operation

/-- The metadata after an operation; one that fails leaves it as it was. -/
def apply (m : Metadata) : Operation → Metadata
  | .sync fresh now s => (m.sync fresh now s).1
  | .markGenerated schema name time =>
    match m.markGenerated schema name time with
    | .ok m' => m'
    | .error _ => m
  | .markAllGenerated keys time =>
    match m.markAllGenerated keys time with
    | .ok m' => m'
    | .error _ => m
  | .setFlags key flags => m.setFlags key flags

def snapshot? : Operation → Option Snapshot
  | .sync _ _ s => some s
  | _ => none

end Operation

/-- What operations make of nothing, the first ones first. -/
def after (operations : List Operation) : Metadata :=
  operations.foldl Operation.apply .empty

/-- The snapshots that operations synced, the first ones first. -/
def synced (operations : List Operation) : List Snapshot :=
  operations.filterMap Operation.snapshot?

/-- The records of all kinds recall the fingerprints of what was synced. -/
structure Recalls (past : List Snapshot) (m : Metadata) : Prop where
  tables : Filed.Recalls Table.qualifiedName Fingerprint.ofTable (past.flatMap Snapshot.tables)
    TableRecord.hash m.tables
  columns : Filed.Recalls (fun p => columnKey p.1 p.2) (fun p => Fingerprint.ofColumn p.2)
    (past.flatMap Snapshot.columns) ColumnRecord.hash m.columns
  indexes : Filed.Recalls (fun p => indexKey p.1 p.2) (fun p => Fingerprint.ofIndex p.2)
    (past.flatMap Snapshot.indexes) IndexRecord.hash m.indexes
  relationships : Filed.Recalls Relationship.key Fingerprint.ofRelationship
    (past.flatMap Snapshot.relationships) RelationshipRecord.hash m.relationships

namespace Recalls

variable {past : List Snapshot} {m m' : Metadata}

theorem empty : Recalls [] .empty := ⟨.empty, .empty, .empty, .empty⟩

theorem of_marked (h : Recalls past m) (hmarked : Marked m m') : Recalls past m' where
  tables k := (hmarked.map_getElem?_tables TableRecord.hash (fun _ => rfl) k).trans (h.tables k)
  columns := hmarked.columns ▸ h.columns
  indexes := hmarked.indexes ▸ h.indexes
  relationships := hmarked.relationships ▸ h.relationships

/-- A sync takes one more fingerprint of each entity, and switching off changes no history. -/
theorem sync (h : Recalls past m) (fresh : RecordKey → Uuid) (now : Instant) (s : Snapshot) :
    Recalls (past ++ [s]) (m.sync fresh now s).1 := by
  refine ⟨?_, ?_, ?_, ?_⟩
  · rw [List.flatMap_append, List.flatMap_singleton]
    refine h.tables.append (map_getElem?_sync_tables_eq _ (fun t found? => ?_) fun _ => rfl)
    cases found? <;> rfl
  · rw [List.flatMap_append, List.flatMap_singleton]
    refine h.columns.append
      ((columns_held fresh).map_getElem?_sync_eq _ (fun t id c found? => ?_) fun _ => rfl)
    cases found? <;> rfl
  · rw [List.flatMap_append, List.flatMap_singleton]
    refine h.indexes.append
      ((indexes_held fresh).map_getElem?_sync_eq _ (fun t id i found? => ?_) fun _ => rfl)
    cases found? <;> rfl
  · rw [List.flatMap_append, List.flatMap_singleton]
    refine h.relationships.append
      (map_getElem?_sync_relationships_eq _ (fun r found? => ?_) fun _ => rfl)
    cases found? <;> rfl

theorem previous_ne (h : Recalls past m) {pair : HashPair} (hpair : pair ∈ m.hashPairs) :
    pair.previous ≠ some pair.current := by
  simp only [hashPairs, List.mem_append] at hpair
  rcases hpair with ((hpair | hpair) | hpair) | hpair
  · exact h.tables.previous_ne hpair
  · exact h.columns.previous_ne hpair
  · exact h.indexes.previous_ne hpair
  · exact h.relationships.previous_ne hpair

theorem changedTablesCount_eq (h : Recalls past m) :
    m.changedTablesCount = m.activeTables.length := by
  refine List.countP_eq_length.2 fun r hr => ?_
  have hpair : r.hash ∈ m.hashPairs := by
    obtain ⟨e, he, rfl⟩ := List.mem_map.1 (List.mem_of_mem_filter hr)
    simp only [hashPairs, List.mem_append]
    exact .inl (.inl (.inl
      (List.mem_map_of_mem (f := fun e : String × TableRecord => e.2.hash) he)))
  exact bne_iff_ne.2 (h.previous_ne hpair)

end Recalls

theorem Operation.marked_apply (m : Metadata) {operation : Operation}
    (h : operation.snapshot? = none) : Marked m (operation.apply m) := by
  cases operation with
  | sync fresh now s => cases h
  | markGenerated schema name time =>
    rw [apply]
    split
    · next hmark => exact .of_markGenerated hmark
    · exact .refl m
  | markAllGenerated keys time =>
    rw [apply]
    split
    · next hmark => exact .of_markAllGenerated hmark
    · exact .refl m
  | setFlags key flags => exact .setFlags m key flags

theorem after_concat (operations : List Operation) (operation : Operation) :
    after (operations ++ [operation]) = operation.apply (after operations) := by
  rw [after, List.foldl_append]
  rfl

theorem synced_concat (operations : List Operation) (operation : Operation) :
    synced (operations ++ [operation]) = synced operations ++ operation.snapshot?.toList := by
  rw [synced, List.filterMap_append, ← synced]
  cases operation <;> rfl

theorem recalls_after (operations : List Operation) :
    Recalls (synced operations) (after operations) := by
  induction operations using List.reverseRecOn with
  | nil => exact .empty
  | append_singleton operations operation ih =>
    rw [after_concat, synced_concat]
    cases hsync : operation.snapshot? with
    | none =>
      rw [Option.toList_none, List.append_nil]
      exact ih.of_marked (Operation.marked_apply _ hsync)
    | some s =>
      cases operation with
      | sync fresh now s' =>
        cases hsync
        exact ih.sync fresh now s
      | _ => cases hsync

/-- Whatever is done to metadata: current and previous hashes are the last two fingerprints of what
was synced under each key, without repetitions; they never agree; and all active tables count as
changed. -/
theorem hashes_after (operations : List Operation) :
    Recalls (synced operations) (after operations) ∧
      (∀ pair ∈ (after operations).hashPairs, pair.previous ≠ some pair.current) ∧
      (after operations).changedTablesCount = (after operations).activeTables.length :=
  have h := recalls_after operations
  ⟨h, fun _ hpair => h.previous_ne hpair, h.changedTablesCount_eq⟩

end Metadata

end SchemaCodegen
