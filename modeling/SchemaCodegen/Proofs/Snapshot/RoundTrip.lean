import SchemaCodegen.Proofs.Convention.Comments
import SchemaCodegen.Proofs.Json.Decoding
import SchemaCodegen.Proofs.Json.Reading
import SchemaCodegen.Snapshot.Format

/-!
# Snapshots as text and back

A snapshot without defects is read back from its text just as it was, lists in their order and
missing values as missing, if only the time of the analysis can be read from its own text
(`Snapshot.ofText_toText`). Each kind of entity has two lemmas: what it is written as can be
written, and decoding gives it back.
-/

namespace SchemaCodegen

open Json (Record Writable)

/-! ## Values -/

theorem Json.Decode.int32_ofInt32 (n : Int32) : Json.Decode.int32 (Json.ofInt32 n) = .ok n := by
  have hrange : -2147483648 ≤ n.toInt ∧ n.toInt ≤ 2147483647 :=
    ⟨n.le_toInt, Int.le_of_lt_add_one n.toInt_lt⟩
  change (if -2147483648 ≤ n.toInt ∧ n.toInt ≤ 2147483647 then
    Except.ok n.toInt else Except.error Json.Refusal.mismatch).map Int32.ofInt = _
  rw [if_pos hrange]
  exact congrArg Except.ok (Int32.ofInt_toInt n)

theorem Json.writable_ofInt32 (n : Int32) : Writable (Json.ofInt32 n) := by
  have hlow := n.le_toInt
  have hhigh := n.toInt_lt
  change Json.Has64Bits n.toInt
  unfold Json.Has64Bits
  omega

theorem Json.writable_ofList {α : Type} {encode : α → Json} {as : List α}
    (h : ∀ a ∈ as, Writable (encode a)) : Writable (Json.ofList encode as) := by
  refine Json.writableItems_iff.2 fun item hitem => ?_
  obtain ⟨a, ha, rfl⟩ := List.mem_map.1 hitem
  exact h a ha

theorem Json.writable_ofTexts (ss : List String) : Writable (Json.ofTexts ss) :=
  Json.writable_ofList fun _ _ => trivial

theorem Json.writable_ofOption {α : Type} {encode : α → Json} (h : ∀ a, Writable (encode a))
    (a? : Option α) : Writable (Json.ofOption encode a?) := by
  cases a? with
  | none => trivial
  | some a => exact h a

theorem Json.writable_optionalMember {α : Type} {name : String} {encode : α → Json} {a? : Option α}
    (h : ∀ a, Writable (encode a)) : Json.WritableMembers (Json.optionalMember name encode a?) := by
  cases a? with
  | none => trivial
  | some a => exact ⟨h a, trivial⟩

theorem Json.writable_optionalText {name : String} {s? : Option String} :
    Json.WritableMembers (Json.optionalMember name .text s?) :=
  Json.writable_optionalMember fun _ => trivial

theorem Json.writable_unless {isDefault : Bool} {name : String} {value : Json}
    (h : Writable value) :
    Json.WritableMembers (if isDefault then [] else [(name, value)]) := by
  cases isDefault
  · exact ⟨h, trivial⟩
  · trivial

namespace Properties

theorem decode_toJson (properties : Properties) : decode properties.toJson = .ok properties := by
  have hmembers : Json.Decode.members Json.Decode.text properties.toJson =
      .ok properties.toList :=
    Json.Decode.members_map fun _ _ => rfl
  rw [decode, hmembers]
  exact congrArg Except.ok (foldl_insert_of_perm (List.Perm.refl properties.toList))

theorem writable (properties : Properties) : Writable properties.toJson := by
  refine Json.writableMembers_iff.2 fun m hm => ?_
  obtain ⟨entry, -, rfl⟩ := List.mem_map.1 hm
  trivial

theorem eq_empty_of_isEmpty {properties : Properties} (h : properties.isEmpty = true) :
    properties = ∅ :=
  Std.ExtTreeMap.isEmpty_iff.1 h

end Properties

theorem Convention.decode_toJson (c : Convention) : decode c.toJson = .ok c := by
  apply Json.Decode.variant_text
  cases c <;> decide

theorem Cardinality.decode_toJson (c : Cardinality) : decode c.toJson = .ok c := by
  apply Json.Decode.variant_text
  cases c <;> decide

/-! ## Entities -/

open Json.Record.Reads

theorem Json.Record.Reads.optionalInt32 {name : String} {n? : Option Int32} :
    Record.Reads (.optional name Json.Decode.int32) (Json.optionalMember name Json.ofInt32 n?)
      n? :=
  optional (fun n _ => Json.Decode.int32_ofInt32 n) fun _ h => nomatch h

namespace Column

theorem decode_toJson (c : Column) : decode c.toJson = .ok c := by
  refine Record.Reads.decode (a := c) ?_ (by decide)
  obtain ⟨name, dataType, maxLength, precision, scale, isNullable, isPrimaryKey, isIdentity,
    isComputed, isForeignKey, referencedTable, referencedColumn, convention, properties⟩ := c
  apply Record.Reads.of_eq
  · apply seq (withDefault_unless (Properties.decode_toJson properties)
      Properties.eq_empty_of_isEmpty)
    apply seq (withDefault (Convention.decode_toJson convention))
    apply seq optionalText
    apply seq optionalText
    apply seq requiredBool
    apply seq requiredBool
    apply seq requiredBool
    apply seq requiredBool
    apply seq requiredBool
    apply seq optionalInt32
    apply seq optionalInt32
    apply seq optionalInt32
    apply seq requiredText
    exact map Column.mk requiredText
  · simp only [List.append_assoc]
    rfl

theorem writable (c : Column) : Writable c.toJson := by
  simp only [toJson, Writable, Json.writableMembers_append, Json.WritableMembers,
    Convention.toJson, Json.writable_optionalMember Json.writable_ofInt32,
    Json.writable_optionalText, Json.writable_unless c.properties.writable, and_self]

end Column

namespace Index

theorem decode_toJson (i : Index) : decode i.toJson = .ok i := by
  refine Record.Reads.decode (a := i) ?_ (by decide)
  obtain ⟨name, isUnique, isClustered, columns, includedColumns, descendingColumns⟩ := i
  apply Record.Reads.of_eq
  · apply seq (withDefault_unless (Json.Decode.list_ofTexts descendingColumns)
      List.isEmpty_iff.1)
    apply seq (optional (fun ss _ => Json.Decode.list_ofTexts ss) fun _ h => nomatch h)
    apply seq (required (Json.Decode.list_ofTexts columns))
    apply seq requiredBool
    apply seq requiredBool
    exact map Index.mk requiredText
  · rfl

theorem writable (i : Index) : Writable i.toJson := by
  simp only [toJson, Writable, Json.writableMembers_append, Json.WritableMembers,
    Json.writable_ofTexts, Json.writable_optionalMember Json.writable_ofTexts,
    Json.writable_unless (Json.writable_ofTexts i.descendingColumns), and_self]

end Index

namespace Table

theorem decode_toJson (t : Table) : decode t.toJson = .ok t := by
  refine Record.Reads.decode (a := t) ?_ (by decide)
  obtain ⟨name, schemaName, columns, indexes, primaryKeyColumns⟩ := t
  apply Record.Reads.of_eq
  · apply seq (withDefault (Json.Decode.list_ofTexts primaryKeyColumns))
    apply seq (withDefault (Json.Decode.list_ofList fun i _ => Index.decode_toJson i))
    apply seq (required (Json.Decode.list_ofList fun c _ => Column.decode_toJson c))
    apply seq requiredText
    exact map Table.mk requiredText
  · rfl

theorem writable (t : Table) : Writable t.toJson :=
  ⟨trivial, trivial, Json.writable_ofList fun c _ => c.writable,
    Json.writable_ofList fun i _ => i.writable, Json.writable_ofTexts _, trivial⟩

end Table

namespace Relationship

theorem decode_toJson (r : Relationship) : decode r.toJson = .ok r := by
  refine Record.Reads.decode (a := r) ?_ (by decide)
  obtain ⟨foreignKeyName, parentTable, parentColumn, childTable, childColumn, cardinality,
    onDelete, onUpdate⟩ := r
  apply Record.Reads.of_eq
  · apply seq defaultText
    apply seq defaultText
    apply seq (withDefault (Cardinality.decode_toJson cardinality))
    apply seq requiredText
    apply seq requiredText
    apply seq requiredText
    apply seq requiredText
    exact map Relationship.mk requiredText
  · rfl

theorem writable (r : Relationship) : Writable r.toJson :=
  ⟨trivial, trivial, trivial, trivial, trivial, trivial, trivial, trivial, trivial⟩

end Relationship

/-! ## Snapshots -/

namespace Snapshot

/-- The time of the analysis can be read from its text. -/
def HasReadableTime (s : Snapshot) : Prop :=
  Instant.ofText? s.analyzedAt.toText = some s.analyzedAt

theorem decode_toJson {s : Snapshot} (h : s.HasReadableTime) : decode s.toJson = .ok s := by
  refine Record.Reads.decode (a := s) ?_ (by decide)
  obtain ⟨databaseName, serverName, version, analyzedAt, tables, relationships⟩ := s
  apply Record.Reads.of_eq
  · apply seq (required (Json.Decode.list_ofList fun r _ => Relationship.decode_toJson r))
    apply seq (required (Json.Decode.list_ofList fun t _ => Table.decode_toJson t))
    apply seq (required (Json.Decode.parsed_of_some h))
    apply seq requiredText
    apply seq requiredText
    exact map Snapshot.mk requiredText
  · rfl

theorem writable (s : Snapshot) : Writable s.toJson :=
  ⟨trivial, trivial, trivial, trivial, Json.writable_ofList fun t _ => t.writable,
    Json.writable_ofList fun r _ => r.writable, trivial⟩

/-- A snapshot that is accepted comes back from its text just as it was. -/
theorem ofText_toText {s : Snapshot} (usable : s.validated = .ok s) (h : s.HasReadableTime) :
    ofText s.toText = .ok s := by
  have hread : Json.read s.toText = ⟨s.toJson, false⟩ := Json.read_pretty s.writable
  have hdecoded : Json.decodeText decode s.toText = .ok s := by
    rw [Json.decodeText, hread, decode_toJson h]
    rfl
  rw [ofText, hdecoded]
  exact usable

/-- Texts that have to be escaped, numbers at both ends, and an empty list that is not missing. -/
def unusual : Snapshot where
  databaseName := "a\"b\\c/\u00e9\x01"
  serverName := ""
  version := "\n\t"
  analyzedAt := ⟨1700000000, 123456789⟩
  tables := [{
    name := "T"
    schemaName := "d.b"
    columns := [{
      name := "eno_X", dataType := "varchar", maxLength := some (-2147483648)
      precision := some 2147483647, scale := none, isNullable := true, isPrimaryKey := false
      isIdentity := false, isComputed := true, isForeignKey := true
      referencedTable := some "null", referencedColumn := none
      convention := .oneWayEncryption, properties := (∅ : Properties).insert "k\"" "v" }]
    indexes := [⟨"i", true, false, ["eno_X"], some [], []⟩, ⟨"j", false, true, [], none, ["x"]⟩]
    primaryKeyColumns := ["b", "a"] }]
  relationships := [⟨"fk", "T", "A", "U", "B", .manyToMany, "Cascade", "NoAction"⟩]

theorem ofText_toText_unusual : unusual.validated = .ok unusual ∧ unusual.HasReadableTime ∧
    ofText unusual.toText = .ok unusual := by
  have usable : unusual.validated = .ok unusual := by
    have hdefect : unusual.defect? = none := by decide
    rw [validated, hdefect]
  have readable : unusual.HasReadableTime := by
    unfold HasReadableTime
    decide
  exact ⟨usable, readable, ofText_toText usable readable⟩

end Snapshot

end SchemaCodegen
