import SchemaCodegen.Metadata.Format
import SchemaCodegen.Proofs.Instant.RoundTrip
import SchemaCodegen.Proofs.Snapshot.RoundTrip

/-!
# Metadata documents as text and back

A metadata document is read back from its text just as it was: identities, hashes with and without
a previous one, missing values, and records under their keys. All that is asked is that the times in
it are such as a clock can show (`MetadataDocument.ofText_of_isTimely`). As for snapshots, each kind
of record has two lemmas: what it is written as can be written, and decoding gives it back.
-/

namespace SchemaCodegen

open Json (Record Writable)
open Json.Record.Reads

/-! ## Values -/

/-- Reading `k` digits of a number, the highest first, adds them behind what was read before. -/
theorem Text.foldlM_hexDigits (n acc k : Nat) :
    ((List.range k).map fun i => Text.hexDigit (n >>> (4 * (k - 1 - i)) % 16)).foldlM
      (fun n c => do
        let d ← Text.hexValue? c
        if d < 16 then some (16 * n + d) else none) acc = some (acc * 16 ^ k + n % 16 ^ k) := by
  induction k generalizing acc with
  | zero => simp [Nat.mod_one]
  | succ k ih =>
    have hrest : ((List.range k).map Nat.succ).map
        (fun i => Text.hexDigit (n >>> (4 * (k + 1 - 1 - i)) % 16)) =
        (List.range k).map fun i => Text.hexDigit (n >>> (4 * (k - 1 - i)) % 16) := by
      rw [List.map_map]
      refine List.map_congr_left fun i _ => ?_
      have hplace : k + 1 - 1 - i.succ = k - 1 - i := by omega
      rw [Function.comp, hplace]
    have hfirst : n >>> (4 * (k + 1 - 1 - 0)) = n / 16 ^ k := by
      rw [Nat.shiftRight_eq_div_pow, Nat.pow_mul]
      rfl
    have hdigit : n / 16 ^ k % 16 < 16 := Nat.mod_lt _ (by decide)
    rw [List.range_succ_eq_map, List.map_cons, hrest, List.foldlM_cons, hfirst,
      Text.hexValue?_hexDigit hdigit]
    simp only [Option.bind_eq_bind, Option.bind_some, hdigit, if_true] at ih ⊢
    rw [ih, Nat.pow_succ, Nat.mod_mul]
    congr 1
    rw [Nat.add_mul, Nat.mul_assoc 16, Nat.mul_comm 16, Nat.mul_assoc,
      Nat.mul_comm (n / 16 ^ k % 16), Nat.add_assoc, Nat.add_comm (n % 16 ^ k)]

namespace Uuid

theorem ofDigits?_digits (id : Uuid) : ofDigits? id.digits = some id := by
  have hvalue : Text.digitsValue? 16 id.digits = some (0 * 16 ^ 32 + id.bits.toNat % 16 ^ 32) :=
    Text.foldlM_hexDigits id.bits.toNat 0 32
  have hbits : id.bits.toNat % 16 ^ 32 = id.bits.toNat := Nat.mod_eq_of_lt id.bits.isLt
  rw [ofDigits?, if_pos (by simp [digits]), hvalue, Nat.zero_mul, Nat.zero_add, hbits]
  exact congrArg (fun bits => some (Uuid.mk bits)) (BitVec.ofNat_toNat 128 id.bits)

/-- Hyphens are dropped from where they belong. -/
theorem ofHyphenated?_hyphenated {a b c d e : List Char} (ha : a.length = 8) (hb : b.length = 4)
    (hc : c.length = 4) (hd : d.length = 4) (he : e.length = 12) :
    ofHyphenated? (a ++ '-' :: b ++ '-' :: c ++ '-' :: d ++ '-' :: e) =
      ofDigits? (a ++ (b ++ (c ++ (d ++ e)))) := by
  unfold ofHyphenated?
  simp [ha, hb, hc, hd, he, List.drop_append, List.getElem?_append, List.drop_of_length_le]

/-- An identity is read back from its text. -/
theorem ofText?_toText (id : Uuid) : ofText? id.toText = some id := by
  have hlength : id.digits.length = 32 := by simp [digits]
  have hnext : ∀ m, (id.digits.drop m).take 4 ++ id.digits.drop (m + 4) = id.digits.drop m := by
    intro m
    rw [← List.drop_drop, List.take_append_drop]
  have hparts : id.digits.take 8 ++ ((id.digits.drop 8).take 4 ++ ((id.digits.drop 12).take 4 ++
      ((id.digits.drop 16).take 4 ++ id.digits.drop 20))) = id.digits := by
    rw [hnext 16, hnext 12, hnext 8, List.take_append_drop]
  unfold ofText? toText
  rw [String.toList_ofList, if_neg (by simp [hlength]), if_pos (by simp [hlength]),
    ofHyphenated?_hyphenated (by simp [hlength]) (by simp [hlength]) (by simp [hlength])
      (by simp [hlength]) (by simp [hlength]), hparts, ofDigits?_digits]

end Uuid

theorem Json.Decode.uuid_toJson (id : Uuid) : Json.Decode.uuid id.toJson = .ok id :=
  Json.Decode.parsed_of_some id.ofText?_toText

theorem Json.Decode.instant_toJson {t : Instant} (h : t.IsSupported) :
    Json.Decode.instant t.toJson = .ok t :=
  Json.Decode.parsed_of_some (Instant.ofText?_toText h)

theorem Json.Record.Reads.nullableInt32 {name : String} {n? : Option Int32} :
    Record.Reads (.optional name Json.Decode.int32) [(name, Json.ofOption Json.ofInt32 n?)] n? :=
  nullable (fun n _ => Json.Decode.int32_ofInt32 n) fun _ h => nomatch h

theorem Json.Record.Reads.requiredId {name : String} {id : Uuid} :
    Record.Reads (.required name Json.Decode.uuid) [(name, id.toJson)] id :=
  required (Json.Decode.uuid_toJson id)

/-! ## Records -/

namespace HashPair

theorem decode_toJson (pair : HashPair) : decode pair.toJson = .ok pair := by
  refine Record.Reads.decode (a := pair) ?_ (by decide)
  obtain ⟨current, previous⟩ := pair
  apply Record.Reads.of_eq
  · apply seq optionalText
    exact map HashPair.mk requiredText
  · rfl

theorem writable (pair : HashPair) : Writable pair.toJson :=
  ⟨trivial, Json.writable_optionalText⟩

end HashPair

namespace GenerationFlags

theorem decode_toJson (f : GenerationFlags) : decode f.toJson = .ok f := by
  refine Record.Reads.decode (a := f) ?_ (by decide)
  obtain ⟨entity, repository, controller, reactUi, storedProcedures, cqrs⟩ := f
  apply Record.Reads.of_eq
  · apply seq requiredBool
    apply seq requiredBool
    apply seq requiredBool
    apply seq requiredBool
    apply seq requiredBool
    exact map GenerationFlags.mk requiredBool
  · rfl

theorem writable (f : GenerationFlags) : Writable f.toJson :=
  ⟨trivial, trivial, trivial, trivial, trivial, trivial, trivial⟩

end GenerationFlags

namespace TableRecord

/-- The times of the record are such as a clock can show. -/
def IsTimely (r : TableRecord) : Prop :=
  (∀ t, r.lastGenerated = some t → t.IsSupported) ∧ r.lastSynced.IsSupported

theorem decode_toJson {r : TableRecord} (h : r.IsTimely) : decode r.toJson = .ok r := by
  refine Record.Reads.decode (a := r) ?_ (by decide)
  obtain ⟨id, naturalKey, tableName, schemaName, hash, isActive, lastGenerated, lastSynced,
    flags⟩ := r
  apply Record.Reads.of_eq
  · apply seq (required (GenerationFlags.decode_toJson flags))
    apply seq (required (Json.Decode.instant_toJson h.2))
    apply seq (nullable (fun t ht => Json.Decode.instant_toJson (h.1 t ht)) fun _ h => nomatch h)
    apply seq requiredBool
    apply seq (required (HashPair.decode_toJson hash))
    apply seq requiredText
    apply seq requiredText
    apply seq requiredText
    exact map TableRecord.mk requiredId
  · rfl

theorem writable (r : TableRecord) : Writable r.toJson := by
  have hstamp : ∀ t? : Option Instant, Writable (Json.ofOption Instant.toJson t?) :=
    Json.writable_ofOption fun _ => trivial
  exact ⟨trivial, trivial, trivial, trivial, r.hash.writable, trivial, hstamp _, trivial,
    r.flags.writable, trivial⟩

end TableRecord

namespace ColumnRecord

theorem decode_toJson (r : ColumnRecord) : decode r.toJson = .ok r := by
  refine Record.Reads.decode (a := r) ?_ (by decide)
  obtain ⟨id, tableId, naturalKey, columnName, dataType, maxLength, precision, scale, isNullable,
    isPrimaryKey, isIdentity, isComputed, isForeignKey, referencedTable, referencedColumn,
    convention, hash, isActive⟩ := r
  apply Record.Reads.of_eq
  · apply seq requiredBool
    apply seq (required (HashPair.decode_toJson hash))
    apply seq (required (Convention.decode_toJson convention))
    apply seq nullableText
    apply seq nullableText
    apply seq requiredBool
    apply seq requiredBool
    apply seq requiredBool
    apply seq requiredBool
    apply seq requiredBool
    apply seq nullableInt32
    apply seq nullableInt32
    apply seq nullableInt32
    apply seq requiredText
    apply seq requiredText
    apply seq requiredText
    apply seq requiredId
    exact map ColumnRecord.mk requiredId
  · simp only [List.append_assoc]
    rfl

theorem writable (r : ColumnRecord) : Writable r.toJson := by
  have hnumber := Json.writable_ofOption Json.writable_ofInt32
  have htext : ∀ s? : Option String, Writable (Json.ofOption .text s?) :=
    Json.writable_ofOption fun _ => trivial
  exact ⟨trivial, trivial, trivial, trivial, trivial, hnumber _, hnumber _, hnumber _, trivial,
    trivial, trivial, trivial, trivial, htext _, htext _, trivial, r.hash.writable, trivial,
    trivial⟩

end ColumnRecord

namespace IndexColumnRecord

theorem decode_toJson (r : IndexColumnRecord) : decode r.toJson = .ok r := by
  refine Record.Reads.decode (a := r) ?_ (by decide)
  obtain ⟨columnName, keyOrdinal, isDescending, isIncluded⟩ := r
  apply Record.Reads.of_eq
  · apply seq requiredBool
    apply seq requiredBool
    apply seq (required (Json.Decode.int32_ofInt32 keyOrdinal))
    exact map IndexColumnRecord.mk requiredText
  · rfl

theorem writable (r : IndexColumnRecord) : Writable r.toJson :=
  ⟨trivial, Json.writable_ofInt32 _, trivial, trivial, trivial⟩

end IndexColumnRecord

namespace IndexRecord

theorem decode_toJson (r : IndexRecord) : decode r.toJson = .ok r := by
  refine Record.Reads.decode (a := r) ?_ (by decide)
  obtain ⟨id, tableId, naturalKey, indexName, isUnique, isClustered, columns, hash,
    isActive⟩ := r
  apply Record.Reads.of_eq
  · apply seq requiredBool
    apply seq (required (HashPair.decode_toJson hash))
    apply seq (required (Json.Decode.list_ofList fun c _ => IndexColumnRecord.decode_toJson c))
    apply seq requiredBool
    apply seq requiredBool
    apply seq requiredText
    apply seq requiredText
    apply seq requiredId
    exact map IndexRecord.mk requiredId
  · rfl

theorem writable (r : IndexRecord) : Writable r.toJson :=
  ⟨trivial, trivial, trivial, trivial, trivial, trivial,
    Json.writable_ofList fun c _ => c.writable, r.hash.writable, trivial, trivial⟩

end IndexRecord

namespace RelationshipRecord

theorem decode_toJson (r : RelationshipRecord) : decode r.toJson = .ok r := by
  refine Record.Reads.decode (a := r) ?_ (by decide)
  obtain ⟨id, naturalKey, foreignKeyName, parentTable, parentColumn, childTable, childColumn,
    cardinality, onDelete, onUpdate, hash, isActive⟩ := r
  apply Record.Reads.of_eq
  · apply seq requiredBool
    apply seq (required (HashPair.decode_toJson hash))
    apply seq requiredText
    apply seq requiredText
    apply seq (required (Cardinality.decode_toJson cardinality))
    apply seq requiredText
    apply seq requiredText
    apply seq requiredText
    apply seq requiredText
    apply seq requiredText
    apply seq requiredText
    exact map RelationshipRecord.mk requiredId
  · rfl

theorem writable (r : RelationshipRecord) : Writable r.toJson :=
  ⟨trivial, trivial, trivial, trivial, trivial, trivial, trivial, trivial, trivial, trivial,
    r.hash.writable, trivial, trivial⟩

end RelationshipRecord

/-! ## States -/

namespace Filed

variable {α : Type} {decoder : Json.Decoder α} {encode : α → Json} {records : Filed α}

theorem decode_toJson
    (h : ∀ (key : String) r, records[key]? = some r → decoder (encode r) = .ok r) :
    decode decoder (toJson encode records) = .ok records := by
  have hmembers : Json.Decode.members decoder (toJson encode records) = .ok records.toList :=
    Json.Decode.members_map fun (key, r) hm =>
      h key r (Std.ExtTreeMap.mem_toList_iff_getElem?_eq_some.1 hm)
  rw [decode, hmembers]
  exact congrArg Except.ok (Properties.foldl_insert_of_perm (List.Perm.refl records.toList))

theorem writable (h : ∀ r, Writable (encode r)) : Writable (toJson encode records) := by
  refine Json.writableMembers_iff.2 fun m hm => ?_
  obtain ⟨entry, -, rfl⟩ := List.mem_map.1 hm
  exact h entry.2

end Filed

namespace Metadata

/-- The times of all records are such as a clock can show. -/
def IsTimely (m : Metadata) : Prop :=
  ∀ (key : String) (r : TableRecord), m.tables[key]? = some r → r.IsTimely

theorem decode_toJson {m : Metadata} (h : m.IsTimely) : decode m.toJson = .ok m := by
  refine Record.Reads.decode (a := m) ?_ (by decide)
  obtain ⟨tables, columns, indexes, relationships⟩ := m
  apply Record.Reads.of_eq
  · apply seq (required (Filed.decode_toJson fun _ r _ => RelationshipRecord.decode_toJson r))
    apply seq (required (Filed.decode_toJson fun _ r _ => IndexRecord.decode_toJson r))
    apply seq (required (Filed.decode_toJson fun _ r _ => ColumnRecord.decode_toJson r))
    exact map Metadata.mk
      (required (Filed.decode_toJson fun key r hr => TableRecord.decode_toJson (h key r hr)))
  · rfl

theorem writable (m : Metadata) : Writable m.toJson :=
  ⟨Filed.writable TableRecord.writable, Filed.writable ColumnRecord.writable,
    Filed.writable IndexRecord.writable, Filed.writable RelationshipRecord.writable, trivial⟩

end Metadata

/-! ## Documents -/

theorem GenerationOutcome.decode_name (outcome : GenerationOutcome) :
    decode (.text outcome.name) = .ok outcome := by
  apply Json.Decode.variant_text
  cases outcome <;> decide

namespace HistoryRecord

theorem decode_toJson {r : HistoryRecord} (h : r.generatedAt.IsSupported) :
    decode r.toJson = .ok r := by
  refine Record.Reads.decode (a := r) ?_ (by decide)
  obtain ⟨id, schemaName, tableName, artifact, outputPath, outcome, error, generatedAt⟩ := r
  have herror : Record.Reads (.withDefault "error" (Json.Decode.option Json.Decode.text) none)
      (Json.optionalMember "error" .text error) error := by
    cases error with
    | none => exact withDefault_absent
    | some text => exact withDefault rfl
  apply Record.Reads.of_eq
  · apply seq (required (Json.Decode.instant_toJson h))
    apply seq herror
    apply seq (required (GenerationOutcome.decode_name outcome))
    apply seq requiredText
    apply seq requiredText
    apply seq requiredText
    apply seq requiredText
    exact map HistoryRecord.mk requiredId
  · simp only [List.append_assoc]
    rfl

theorem writable (r : HistoryRecord) : Writable r.toJson := by
  simp only [toJson, Writable, Json.writableMembers_append, Json.WritableMembers,
    Json.writable_optionalText, Uuid.toJson, Instant.toJson, and_self]

end HistoryRecord

namespace MetadataDocument

/-- The times of all records and of the history are such as a clock can show. -/
structure IsTimely (d : MetadataDocument) : Prop where
  state : d.state.IsTimely
  history : ∀ r ∈ d.history, r.generatedAt.IsSupported

theorem decode_toJson {d : MetadataDocument} (h : d.IsTimely) : decode d.toJson = .ok d := by
  refine Record.Reads.decode (a := d) ?_ (by decide)
  obtain ⟨state, history⟩ := d
  apply Record.Reads.of_eq
  · apply seq (withDefault (Json.Decode.list_ofList fun r hr =>
      HistoryRecord.decode_toJson (h.history r hr)))
    exact map MetadataDocument.mk (withDefault (Metadata.decode_toJson h.state))
  · rfl

theorem writable (d : MetadataDocument) : Writable d.toJson :=
  ⟨d.state.writable, Json.writable_ofList fun r _ => r.writable, trivial⟩

/-- A document comes back from its text just as it was. -/
theorem ofText_of_isTimely {d : MetadataDocument} (h : d.IsTimely) : ofText d.toText = .ok d := by
  have hread : Json.read d.toText = ⟨d.toJson, false⟩ := Json.read_pretty d.writable
  have hdecoded : Json.decodeText decode d.toText = .ok d := by
    rw [Json.decodeText, hread, decode_toJson h]
    rfl
  rw [ofText, hdecoded]
  rfl

end MetadataDocument

end SchemaCodegen
