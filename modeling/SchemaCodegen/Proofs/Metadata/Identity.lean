import Mathlib.Data.List.Nodup
import SchemaCodegen.Proofs.Metadata.Lineage

/-!
# Identities and what refers to them

As long as no identity is given out twice, reachable metadata is sound (`Reachable.sound`): records
are filed under their own natural keys, have identities of their own, and columns and indexes belong
to stored tables, which are active if any part of them is. Identity and natural key of a record are
settled together, when it is created, and are its label from then on (`label?_sync`).
-/

namespace SchemaCodegen.Metadata

/-! ## Labels -/

/-- The identity and the natural key of the record that is filed under a key. -/
def label? (m : Metadata) : RecordKey → Option (Uuid × String)
  | ⟨.table, k⟩ => m.tables[k]?.map fun r => (r.id, r.naturalKey)
  | ⟨.column, k⟩ => m.columns[k]?.map fun r => (r.id, r.naturalKey)
  | ⟨.index, k⟩ => m.indexes[k]?.map fun r => (r.id, r.naturalKey)
  | ⟨.relationship, k⟩ => m.relationships[k]?.map fun r => (r.id, r.naturalKey)

/-- The identities of the records of one kind. -/
def idsOf (m : Metadata) : RecordKind → List Uuid
  | .table => m.tables.toList.map (·.2.id)
  | .column => m.columns.toList.map (·.2.id)
  | .index => m.indexes.toList.map (·.2.id)
  | .relationship => m.relationships.toList.map (·.2.id)

theorem ids_eq_flatMap (m : Metadata) :
    m.ids = [RecordKind.table, .column, .index, .relationship].flatMap (idsOf m) := by
  simp [ids, idsOf]

section Label

variable {α : Type} {records : Filed α} {recordId : α → Uuid} {id : Uuid}

theorem mem_map_id_iff (label : α → String) : id ∈ records.toList.map (fun e => recordId e.2) ↔
    ∃ k key : String, records[k]?.map (fun r => (recordId r, label r)) = some (id, key) := by
  simp only [List.mem_map, Option.map_eq_some_iff, Prod.mk.injEq]
  constructor
  · rintro ⟨⟨k, r⟩, hr, rfl⟩
    exact ⟨k, label r, r, Std.ExtTreeMap.mem_toList_iff_getElem?_eq_some.1 hr, rfl, rfl⟩
  · rintro ⟨k, -, r, hr, rfl, -⟩
    exact ⟨(k, r), Std.ExtTreeMap.mem_toList_iff_getElem?_eq_some.2 hr, rfl⟩

theorem nodup_map_id (hinj : ∀ {k k' : String} {r r' : α}, records[k]? = some r →
    records[k']? = some r' → recordId r = recordId r' → k = k') :
    (records.toList.map fun e => recordId e.2).Nodup := by
  rw [List.Nodup, List.pairwise_map]
  refine Std.ExtTreeMap.distinct_keys_toList.imp_of_mem fun {e e'} he he' hkeys hsame => hkeys ?_
  rw [hinj (Std.ExtTreeMap.mem_toList_iff_getElem?_eq_some.1 he)
    (Std.ExtTreeMap.mem_toList_iff_getElem?_eq_some.1 he') hsame]
  exact Std.ReflCmp.compare_self

end Label

theorem mem_idsOf_iff {m : Metadata} {kind : RecordKind} {id : Uuid} :
    id ∈ idsOf m kind ↔ ∃ k key, label? m ⟨kind, k⟩ = some (id, key) := by
  cases kind with
  | table => exact mem_map_id_iff TableRecord.naturalKey
  | column => exact mem_map_id_iff ColumnRecord.naturalKey
  | index => exact mem_map_id_iff IndexRecord.naturalKey
  | relationship => exact mem_map_id_iff RelationshipRecord.naturalKey

/-- The identities in use are those of the labels. -/
theorem mem_ids_iff {m : Metadata} {id : Uuid} :
    id ∈ m.ids ↔ ∃ k key, label? m k = some (id, key) := by
  rw [ids_eq_flatMap, List.mem_flatMap]
  constructor
  · rintro ⟨kind, -, hid⟩
    obtain ⟨k, hk⟩ := mem_idsOf_iff.1 hid
    exact ⟨⟨kind, k⟩, hk⟩
  · rintro ⟨⟨kind, k⟩, hk⟩
    exact ⟨kind, by cases kind <;> decide, mem_idsOf_iff.2 ⟨k, hk⟩⟩

theorem label?_eq_of_marked {m m' : Metadata} (h : Marked m m') : label? m' = label? m := by
  funext ⟨kind, k⟩
  cases kind with
  | table => exact h.map_getElem?_tables (fun r => (r.id, r.naturalKey)) (fun _ => rfl) k
  | column => rw [label?, label?, h.columns]
  | index => rw [label?, label?, h.indexes]
  | relationship => rw [label?, label?, h.relationships]

/-- Of entities with one key, the first one that is found stands for all. -/
theorem find?_key_map {β ν : Type} (key : β → String) (f : String → ν) (bs : List β) (k : String) :
    (bs.find? (key · == k)).map (fun b => f (key b)) =
      if k ∈ bs.map key then some (f k) else none := by
  induction bs with
  | nil => rfl
  | cons b bs ih =>
    by_cases h : key b = k
    · simp [h]
    · have hne : ¬ k = key b := fun e => h e.symm
      rw [List.find?_cons_of_neg (by simpa using h), ih, List.map_cons]
      simp only [List.mem_cons, hne, false_or]

section RecordKeys

variable {s : Snapshot} {k : String}

theorem tableKey_mem_recordKeys : (⟨.table, k⟩ : RecordKey) ∈ s.recordKeys ↔
    k ∈ s.tables.map Table.qualifiedName := by
  simp [Snapshot.recordKeys, eq_comm]

theorem columnKey_mem_recordKeys : (⟨.column, k⟩ : RecordKey) ∈ s.recordKeys ↔
    k ∈ s.columns.map fun p => columnKey p.1 p.2 := by
  simp [Snapshot.recordKeys, Snapshot.columns, and_assoc]

theorem indexKey_mem_recordKeys : (⟨.index, k⟩ : RecordKey) ∈ s.recordKeys ↔
    k ∈ s.indexes.map fun p => indexKey p.1 p.2 := by
  simp [Snapshot.recordKeys, Snapshot.indexes, and_assoc]

theorem relationshipKey_mem_recordKeys : (⟨.relationship, k⟩ : RecordKey) ∈ s.recordKeys ↔
    k ∈ s.relationships.map Relationship.key := by
  simp [Snapshot.recordKeys]

end RecordKeys

/-- A sync labels each record that it creates as it is told to, and changes no label. -/
theorem label?_sync (fresh : RecordKey → Uuid) (now : Instant) (s : Snapshot) (m : Metadata)
    (k : RecordKey) : label? (m.sync fresh now s).1 k =
      (label? m k).or (if k ∈ s.recordKeys then some (fresh k, k.key) else none) := by
  obtain ⟨kind, k⟩ := k
  cases kind with
  | table =>
    simp only [tableKey_mem_recordKeys,
      ← find?_key_map Table.qualifiedName fun k => (fresh ⟨.table, k⟩, k)]
    exact map_getElem?_sync_tables (fun _ => rfl) (fun _ _ => rfl) (fun _ => rfl) k
  | column =>
    simp only [columnKey_mem_recordKeys,
      ← find?_key_map (fun p : Table × Column => columnKey p.1 p.2)
        fun k => (fresh ⟨.column, k⟩, k)]
    exact (columns_held fresh).map_getElem?_sync _ (fun _ _ _ => rfl) (fun _ _ _ _ => rfl)
      (fun _ => rfl) k
  | index =>
    simp only [indexKey_mem_recordKeys,
      ← find?_key_map (fun p : Table × Index => indexKey p.1 p.2)
        fun k => (fresh ⟨.index, k⟩, k)]
    exact (indexes_held fresh).map_getElem?_sync _ (fun _ _ _ => rfl) (fun _ _ _ _ => rfl)
      (fun _ => rfl) k
  | relationship =>
    simp only [relationshipKey_mem_recordKeys,
      ← find?_key_map Relationship.key fun k => (fresh ⟨.relationship, k⟩, k)]
    exact map_getElem?_sync_relationships (fun _ => rfl) (fun _ _ => rfl) (fun _ => rfl) k

/-- Records are filed under their own natural keys, and no two of them have one identity. -/
structure Labelled (m : Metadata) : Prop where
  key_eq : ∀ {k : RecordKey} {id : Uuid} {key : String}, label? m k = some (id, key) → key = k.key
  injective : ∀ {k k' : RecordKey} {id : Uuid} {key key' : String},
    label? m k = some (id, key) → label? m k' = some (id, key') → k = k'

namespace Labelled

variable {m m' : Metadata}

theorem empty : Labelled .empty := by
  have hnone : ∀ k, label? .empty k = none := by
    rintro ⟨kind, k⟩
    cases kind <;> simp [label?, Metadata.empty]
  refine ⟨fun h => ?_, fun h => ?_⟩ <;> rw [hnone] at h <;> cases h

theorem of_marked (h : Labelled m) (hmarked : Marked m m') : Labelled m' := by
  refine ⟨fun {k id key} hk => ?_, fun {k k' id key key'} hk hk' => ?_⟩
  · rw [label?_eq_of_marked hmarked] at hk
    exact h.key_eq hk
  · rw [label?_eq_of_marked hmarked] at hk hk'
    exact h.injective hk hk'

/-- New labels have identities that were never given out and that differ from one another. -/
theorem sync {fresh : RecordKey → Uuid} {s : Snapshot} (h : Labelled m)
    (hfresh : m.Fresh fresh s) (now : Instant) : Labelled (m.sync fresh now s).1 := by
  have hof : ∀ {k : RecordKey} {id : Uuid} {key : String},
      label? (m.sync fresh now s).1 k = some (id, key) →
        label? m k = some (id, key) ∨ k ∈ s.recordKeys ∧ fresh k = id ∧ k.key = key := by
    intro k id key hk
    rw [label?_sync, Option.or_eq_some_iff] at hk
    rcases hk with hk | ⟨-, hk⟩
    · exact .inl hk
    · split at hk
      · next hmem =>
        cases hk
        exact .inr ⟨hmem, rfl, rfl⟩
      · cases hk
  refine ⟨fun hk => ?_, fun {k k' id key key'} hk hk' => ?_⟩
  · rcases hof hk with hk | ⟨-, -, hkey⟩
    · exact h.key_eq hk
    · exact hkey.symm
  · rcases hof hk with hold | ⟨hmem, hid, -⟩ <;> rcases hof hk' with hold' | ⟨hmem', hid', -⟩
    · exact h.injective hold hold'
    · exact absurd (mem_ids_iff.2 ⟨k, key, hold⟩) (hid' ▸ hfresh.unused hmem')
    · exact absurd (mem_ids_iff.2 ⟨k', key', hold'⟩) (hid ▸ hfresh.unused hmem)
    · exact hfresh.injective hmem hmem' (hid.trans hid'.symm)

theorem nodup_idsOf (h : Labelled m) (kind : RecordKind) : (idsOf m kind).Nodup := by
  have hkeys : ∀ {k k' : String} {id id' : Uuid} {key key' : String},
      label? m ⟨kind, k⟩ = some (id, key) → label? m ⟨kind, k'⟩ = some (id', key') → id = id' →
        k = k' := by
    rintro k k' id _ key key' hk hk' rfl
    exact congrArg RecordKey.key (h.injective hk hk')
  cases kind <;>
    exact nodup_map_id fun hr hr' => hkeys (congrArg (Option.map _) hr)
      (congrArg (Option.map _) hr')

/-- All identities differ, within each kind of records and between kinds. -/
theorem nodup_ids (h : Labelled m) : m.ids.Nodup := by
  rw [ids_eq_flatMap, List.nodup_flatMap]
  refine ⟨fun kind _ => h.nodup_idsOf kind, ?_⟩
  have hkinds : [RecordKind.table, .column, .index, .relationship].Nodup := by decide
  refine hkinds.imp fun {kind kind'} hne id hid hid' => hne ?_
  obtain ⟨k, key, hk⟩ := mem_idsOf_iff.1 hid
  obtain ⟨k', key', hk'⟩ := mem_idsOf_iff.1 hid'
  exact congrArg RecordKey.kind (h.injective hk hk')

end Labelled

/-! ## Activity -/

/-- No column and no index is active if its table is not. -/
structure Quiet (m : Metadata) : Prop where
  column : ∀ {k : String} {r : ColumnRecord}, m.columns[k]? = some r → r.isActive →
    r.tableId ∉ inactiveIds m.tables
  index : ∀ {k : String} {r : IndexRecord}, m.indexes[k]? = some r → r.isActive →
    r.tableId ∉ inactiveIds m.tables

/-- The last step of a sync switches the parts of inactive tables off, whatever came before. -/
theorem PartKind.Held.quiet_sync {α β : Type} {K : PartKind α β} {fresh : RecordKey → Uuid}
    {now : Instant} {records : Metadata → Filed α} {s : Snapshot} {m : Metadata}
    (h : K.Held fresh records) {k : String} {r : α}
    (hr : (records (m.sync fresh now s).1)[k]? = some r) (hactive : K.isActive r) :
    K.tableId r ∉ inactiveIds (m.sync fresh now s).1.tables := by
  rw [h.sync, Std.ExtTreeMap.getElem?_map, Option.map_eq_some_iff] at hr
  obtain ⟨r₀, -, rfl⟩ := hr
  rw [K.tableId_ite]
  intro hid
  rw [if_pos (List.contains_iff_mem.2 hid), K.isActive_switchOff] at hactive
  cases hactive

namespace Quiet

variable {m m' : Metadata}

theorem empty : Quiet .empty := by
  refine ⟨fun h => ?_, fun h => ?_⟩ <;> simp [Metadata.empty] at h

theorem sync (fresh : RecordKey → Uuid) (now : Instant) (s : Snapshot) (m : Metadata) :
    Quiet (m.sync fresh now s).1 :=
  ⟨(columns_held fresh).quiet_sync, (indexes_held fresh).quiet_sync⟩

theorem of_marked (h : Quiet m) (hmarked : Marked m m') : Quiet m' := by
  have hids : ∀ id, id ∈ inactiveIds m'.tables → id ∈ inactiveIds m.tables := by
    intro id hid
    obtain ⟨k, r, hr, hoff, hid⟩ := mem_inactiveIds.1 hid
    have hsame := hmarked.map_getElem?_tables (fun r => (r.isActive, r.id)) (fun _ => rfl) k
    rw [hr, Option.map_some, eq_comm, Option.map_eq_some_iff] at hsame
    obtain ⟨r₀, hr₀, hsame⟩ := hsame
    obtain ⟨hoff₀, hid₀⟩ := Prod.mk.inj hsame
    exact mem_inactiveIds.2 ⟨k, r₀, hr₀, hoff₀.trans hoff, hid₀.trans hid⟩
  refine ⟨fun hr hactive hid => ?_, fun hr hactive hid => ?_⟩
  · rw [hmarked.columns] at hr
    exact h.column hr hactive (hids _ hid)
  · rw [hmarked.indexes] at hr
    exact h.index hr hactive (hids _ hid)

end Quiet

/-! ## Soundness -/

/-- A stored table has an identity; if something is active, so is the table. -/
def HasOwner (tables : Filed TableRecord) (id : Uuid) (isActive : Bool) : Prop :=
  ∃ (k : String) (t : TableRecord), tables[k]? = some t ∧ t.id = id ∧ (isActive → t.isActive)

/-- Records are filed under their own keys and have their own identities, and all references are to
stored tables. -/
structure Sound (m : Metadata) : Prop where
  tableKey : ∀ {k : String} {r : TableRecord}, m.tables[k]? = some r → r.naturalKey = k
  columnKey : ∀ {k : String} {r : ColumnRecord}, m.columns[k]? = some r → r.naturalKey = k
  indexKey : ∀ {k : String} {r : IndexRecord}, m.indexes[k]? = some r → r.naturalKey = k
  relationshipKey : ∀ {k : String} {r : RelationshipRecord}, m.relationships[k]? = some r →
    r.naturalKey = k
  nodup_ids : m.ids.Nodup
  columnOwner : ∀ {k : String} {r : ColumnRecord}, m.columns[k]? = some r →
    HasOwner m.tables r.tableId r.isActive
  indexOwner : ∀ {k : String} {r : IndexRecord}, m.indexes[k]? = some r →
    HasOwner m.tables r.tableId r.isActive

theorem hasOwner {tables : Filed TableRecord} {owner : String} {id : Uuid} {isActive : Bool}
    (howner : idOf? tables owner = some id) (hquiet : isActive → id ∉ inactiveIds tables) :
    HasOwner tables id isActive := by
  obtain ⟨t, ht, hid⟩ := Option.map_eq_some_iff.1 howner
  refine ⟨owner, t, ht, hid, fun hactive => ?_⟩
  by_contra hoff
  exact hquiet hactive (mem_inactiveIds.2 ⟨owner, t, ht, Bool.not_eq_true _ ▸ hoff, hid⟩)

namespace Reachable

variable {past : List Snapshot} {m : Metadata}

theorem labelled (h : Reachable past m) : Labelled m :=
  h.keeps .empty (fun _ now _ hfresh ih => ih.sync hfresh now) fun hmarked ih =>
    ih.of_marked hmarked

theorem quiet (h : Reachable past m) : Quiet m :=
  h.keeps .empty (fun fresh now s _ _ => .sync fresh now s _) fun hmarked ih =>
    ih.of_marked hmarked

theorem sound (h : Reachable past m) : Sound m where
  tableKey {k _} hr := h.labelled.key_eq (k := ⟨.table, k⟩) (congrArg (Option.map _) hr)
  columnKey {k _} hr := h.labelled.key_eq (k := ⟨.column, k⟩) (congrArg (Option.map _) hr)
  indexKey {k _} hr := h.labelled.key_eq (k := ⟨.index, k⟩) (congrArg (Option.map _) hr)
  relationshipKey {k _} hr :=
    h.labelled.key_eq (k := ⟨.relationship, k⟩) (congrArg (Option.map _) hr)
  nodup_ids := h.labelled.nodup_ids
  columnOwner hr :=
    have ⟨_, howner⟩ := h.owned.column hr
    hasOwner howner (h.quiet.column hr)
  indexOwner hr :=
    have ⟨_, howner⟩ := h.owned.index hr
    hasOwner howner (h.quiet.index hr)

end Reachable

end SchemaCodegen.Metadata
