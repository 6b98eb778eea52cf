import SchemaCodegen.Proofs.Metadata.Resync

/-!
# What a sync leaves alone

A sync writes to the records of all four kinds, in place and in many passes. Still it deletes none
and adds none but those of entities in the snapshot; records keep their identities, their names or
ends and, for tables, what is known of generation; and where the snapshot has no entity, at most the
mark of an active record is taken away (`frame_sync`). For one kind of records this is a
`Filed.Frame`.
-/

namespace SchemaCodegen

/-- Records before and after a change that concerns the entities with the given keys. What `lasting`
shows of a record is never changed, and a record that the change does not concern may only be
switched off, if it was active. -/
structure Filed.Frame {α ν : Type} (lasting : α → ν) (isActive : α → Bool) (switchOff : α → α)
    (keys : List String) (records records' : Filed α) : Prop where
  kept : ∀ {k : String} {r : α}, records[k]? = some r →
    ∃ r', records'[k]? = some r' ∧ lasting r' = lasting r
  other : ∀ {k : String} {r : α}, k ∉ keys → records[k]? = some r →
    records'[k]? = some r ∨ isActive r = true ∧ records'[k]? = some (switchOff r)
  new : ∀ {k : String}, k ∈ records' → k ∈ records ∨ k ∈ keys

namespace Filed.Frame

variable {α ν : Type} {lasting : α → ν} {isActive : α → Bool} {switchOff : α → α}
  {keys : List String} {records records' : Filed α}

/-- Where what is shown of a record was there before or comes from an entity, it suffices to look at
the records that the change does not concern. -/
theorem of_map_eq {shown? : String → Option ν}
    (hmap : ∀ k : String, records'[k]?.map lasting = (records[k]?.map lasting).or (shown? k))
    (hshown : ∀ {k : String}, (shown? k).isSome → k ∈ keys)
    (hother : ∀ {k : String} {r : α}, k ∉ keys → records[k]? = some r →
      records'[k]? = some r ∨ isActive r = true ∧ records'[k]? = some (switchOff r)) :
    Frame lasting isActive switchOff keys records records' := by
  refine ⟨fun {k r} hr => ?kept, hother, fun {k} hk => ?new⟩
  case kept =>
    have hshows := hmap k
    rw [hr, Option.map_some, Option.some_or, Option.map_eq_some_iff] at hshows
    exact hshows
  case new =>
    rw [Std.ExtTreeMap.mem_iff_isSome_getElem?] at hk ⊢
    rw [← Option.isSome_map (f := lasting), hmap k, Option.isSome_or, Option.isSome_map,
      Bool.or_eq_true] at hk
    exact hk.imp_right hshown

end Filed.Frame

/-! ## What lasts of a record -/

/-- What syncs never change of a table's record. -/
def TableRecord.lasting (r : TableRecord) :
    Uuid × String × (String × String) × Option Instant × GenerationFlags :=
  (r.id, r.naturalKey, r.names, r.lastGenerated, r.flags)

/-- What syncs never change of a column's record. -/
def ColumnRecord.lasting (r : ColumnRecord) : Uuid × String × String :=
  (r.id, r.naturalKey, r.columnName)

/-- What syncs never change of an index's record. -/
def IndexRecord.lasting (r : IndexRecord) : Uuid × String × String :=
  (r.id, r.naturalKey, r.indexName)

/-- What syncs never change of a relationship's record. -/
def RelationshipRecord.lasting (r : RelationshipRecord) :
    Uuid × String × ((String × String) × (String × String)) :=
  (r.id, r.naturalKey, r.ends)

namespace Metadata

/-- What a sync with a snapshot at some time may do to metadata at most. -/
structure Frame (s : Snapshot) (now : Instant) (m m' : Metadata) : Prop where
  tables : Filed.Frame TableRecord.lasting TableRecord.isActive
    ({ · with isActive := false, lastSynced := now }) (s.tables.map Table.qualifiedName)
    m.tables m'.tables
  columns : Filed.Frame ColumnRecord.lasting ColumnRecord.isActive ({ · with isActive := false })
    s.columnKeys m.columns m'.columns
  indexes : Filed.Frame IndexRecord.lasting IndexRecord.isActive ({ · with isActive := false })
    s.indexKeys m.indexes m'.indexes
  relationships : Filed.Frame RelationshipRecord.lasting RelationshipRecord.isActive
    ({ · with isActive := false }) (s.relationships.map Relationship.key)
    m.relationships m'.relationships

theorem mem_map_key_of_find? {β ν : Type} {key : β → String} {bs : List β} {view : β → ν}
    {k : String} (h : ((bs.find? (key · == k)).map view).isSome) : k ∈ bs.map key := by
  rw [Option.isSome_map, List.find?_isSome] at h
  obtain ⟨b, hb, hkey⟩ := h
  rw [← beq_iff_eq.1 hkey]
  exact List.mem_map_of_mem hb

theorem PartKind.Held.frame {α β ν : Type} {K : PartKind α β} {fresh : RecordKey → Uuid}
    {records : Metadata → Filed α} {lasting : α → ν} (h : K.Held fresh records)
    (hnew : ∀ t id b, lasting (K.record t id b none) = lasting (K.record t default b none))
    (hkept : ∀ t id b r, lasting (K.record t id b (some r)) = lasting r)
    (hoff : ∀ r, lasting (K.switchOff r) = lasting r)
    (hsame : ∀ r, K.isActive r = false → K.switchOff r = r) (now : Instant) (s : Snapshot)
    (m : Metadata) : Filed.Frame lasting K.isActive K.switchOff (K.keys s.tables) (records m)
      (records (m.sync fresh now s).1) := by
  refine .of_map_eq (h.map_getElem?_sync (fun e => lasting (K.record e.1 default e.2 none)) hnew
    hkept hoff) (fun {k} hk => ?shown) fun {k r} hk hr => ?other
  case shown =>
    obtain ⟨e, he, rfl⟩ := List.mem_map.1 (mem_map_key_of_find? hk)
    exact mem_keys_of_mem_partsOf he
  case other =>
    rw [h.getElem?_sync_other now m hk, hr, Option.map_some]
    split
    · cases hactive : K.isActive r with
      | true => exact .inr ⟨rfl, rfl⟩
      | false => exact .inl (congrArg some (hsame r hactive))
    · exact .inl rfl

/-- A sync deletes nothing. Of what was stored it leaves identities, names and ends alone, and what
is known of the generation of tables; all else of a record it leaves alone if the snapshot does not
have its key, except that the record is no longer active. What it adds is of the snapshot. -/
theorem frame_sync (fresh : RecordKey → Uuid) (now : Instant) (s : Snapshot) (m : Metadata) :
    Frame s now m (m.sync fresh now s).1 := by
  refine ⟨?tables, ?columns, ?indexes, ?relationships⟩
  case tables =>
    refine .of_map_eq (map_getElem?_sync_tables (fun _ => rfl) (fun _ _ => rfl) fun _ => rfl)
      mem_map_key_of_find? fun {k r} hk hr => ?_
    rw [getElem?_sync_tables_of_not_mem fresh now hk, hr, Option.map_some]
    cases hactive : r.isActive with
    | true => exact .inr ⟨rfl, rfl⟩
    | false => exact .inl rfl
  case columns =>
    exact (columns_held fresh).frame (fun _ _ _ => rfl) (fun _ _ _ _ => rfl) (fun _ => rfl)
      (fun r hactive => congrArg _ hactive.symm) now s m
  case indexes =>
    exact (indexes_held fresh).frame (fun _ _ _ => rfl) (fun _ _ _ _ => rfl) (fun _ => rfl)
      (fun r hactive => congrArg _ hactive.symm) now s m
  case relationships =>
    refine .of_map_eq (map_getElem?_sync_relationships (fun _ => rfl) (fun _ _ => rfl) fun _ => rfl)
      mem_map_key_of_find? fun {k r} hk hr => ?_
    rw [getElem?_sync_relationships_of_not_mem hk, hr, Option.map_some]
    cases hactive : r.isActive with
    | true => exact .inr ⟨rfl, rfl⟩
    | false =>
      rw [← hactive]
      exact .inl rfl

end Metadata

end SchemaCodegen
