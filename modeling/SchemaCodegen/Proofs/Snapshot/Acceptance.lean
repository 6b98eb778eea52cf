import Mathlib.Data.List.Infix
import SchemaCodegen.Proofs.Instant.RoundTrip
import SchemaCodegen.Proofs.Snapshot.Names
import SchemaCodegen.Proofs.Snapshot.RoundTrip

/-!
# Which snapshots are accepted

A snapshot is accepted exactly if it is well named: no table has a blank name, and the names of
tables, of the columns and indexes of a table, and the keys of relationships differ. Otherwise the
first defect is reported, table by table, and relationships last (`validated_iff`). A key joins the
names of both ends into one text, so relationships between different columns may share a key
(`ambiguous_refused`), but not as long as their names are plain (`key_eq_key_iff`).
-/

namespace SchemaCodegen

/-- Where a list may be parted: at its head, or behind it. -/
theorem exists_parted_cons_iff {α : Type} {a : α} {as : List α} {P : List α → α → Prop} :
    (∃ before b after, a :: as = before ++ b :: after ∧ P before b) ↔
      P [] a ∨ ∃ before b after, as = before ++ b :: after ∧ P (a :: before) b := by
  constructor
  · rintro ⟨before, b, after, heq, h⟩
    cases before with
    | nil =>
      cases heq
      exact .inl h
    | cons first before =>
      cases heq
      exact .inr ⟨before, b, after, rfl, h⟩
  · rintro (h | ⟨before, b, after, rfl, h⟩)
    · exact ⟨[], a, as, rfl, h⟩
    · exact ⟨a :: before, b, after, rfl, h⟩

namespace Snapshot

/-! ## Repetitions -/

/-- The name stands behind itself, and all names up to there differ. -/
def FirstRepeated (names : List String) (name : String) : Prop :=
  ∃ before after, names = before ++ name :: after ∧ before.Nodup ∧ name ∈ before

section Repetitions

variable {seen names : List String} {name : String}

theorem firstRepeated?_eq_some_iff : firstRepeated? seen names = some name ↔
    ∃ before repeated after, names = before ++ repeated :: after ∧
      DistinctBeside seen before ∧ (repeated ∈ before ∨ repeated ∈ seen) ∧ repeated = name := by
  induction names generalizing seen with
  | nil => simp [firstRepeated?]
  | cons first names ih =>
    rw [exists_parted_cons_iff, firstRepeated?]
    simp only [distinctBeside_cons_iff]
    by_cases hfirst : first ∈ seen
    · simp [hfirst, DistinctBeside]
    · simp [hfirst, ih, or_assoc, or_left_comm]

theorem firstRepeated?_nil_eq_some_iff :
    firstRepeated? [] names = some name ↔ FirstRepeated names name := by
  rw [firstRepeated?_eq_some_iff]
  simp only [distinctBeside_nil, List.not_mem_nil, or_false, FirstRepeated]
  constructor
  · rintro ⟨before, _, after, hnames, hnodup, hmem, rfl⟩
    exact ⟨before, after, hnames, hnodup, hmem⟩
  · rintro ⟨before, after, hnames, hnodup, hmem⟩
    exact ⟨before, name, after, hnames, hnodup, hmem, rfl⟩

end Repetitions

end Snapshot

/-! ## Tables -/

open Snapshot (FirstRepeated Defect)

namespace Table

/-- What is wrong with a table first, behind tables of other names. -/
inductive HasDefect (database : String) (seen : List String) (t : Table) : Defect → Prop where
  | blank (unnamed : ¬ t.IsNamed) :
    HasDefect database seen t .blankTableName
  | repeated (named : t.IsNamed) (repeated : t.name ∈ seen) :
    HasDefect database seen t (.duplicateTable t.name database)
  | column {name : String} (named : t.IsNamed)
    (unseen : t.name ∉ seen) (repeated : FirstRepeated (t.columns.map Column.name) name) :
    HasDefect database seen t (.duplicateColumn name t.name)
  | index {name : String} (named : t.IsNamed)
    (unseen : t.name ∉ seen) (columns : (t.columns.map Column.name).Nodup)
    (repeated : FirstRepeated (t.indexes.map Index.name) name) :
    HasDefect database seen t (.duplicateIndex name t.name)

end Table

namespace Snapshot

section Tables

variable {database : String} {seen : List String} {t : Table} {tables : List Table} {d : Defect}

theorem tableDefect?_eq_some_iff : tableDefect? t = some d ↔
    (∃ name, FirstRepeated (t.columns.map Column.name) name ∧
        .duplicateColumn name t.name = d) ∨
      (t.columns.map Column.name).Nodup ∧
        ∃ name, FirstRepeated (t.indexes.map Index.name) name ∧
          .duplicateIndex name t.name = d := by
  simp only [tableDefect?, ← firstRepeated?_nil_eq_none_iff, ← firstRepeated?_nil_eq_some_iff]
  cases firstRepeated? [] (t.columns.map Column.name) with
  | none => simp
  | some name => simp

/-- A table is looked at before all that stand behind it. -/
theorem tablesDefect?_cons_eq_some_iff : tablesDefect? database seen (t :: tables) = some d ↔
    t.HasDefect database seen d ∨
      (t.WellNamed ∧ t.name ∉ seen) ∧
        tablesDefect? database (t.name :: seen) tables = some d := by
  constructor
  · intro h
    by_cases hnamed : t.IsNamed
    · by_cases hseen : t.name ∈ seen
      · rw [tablesDefect?_of_repeated hnamed hseen] at h
        cases h
        exact .inl (.repeated hnamed hseen)
      · rw [tablesDefect?_cons hnamed hseen] at h
        rcases Option.or_eq_some_iff.1 h with htable | ⟨htable, hrest⟩
        · rcases tableDefect?_eq_some_iff.1 htable with
            ⟨name, hname, rfl⟩ | ⟨hcolumns, name, hname, rfl⟩
          · exact .inl (.column hnamed hseen hname)
          · exact .inl (.index hnamed hseen hcolumns hname)
        · obtain ⟨hcolumns, hindexes⟩ := tableDefect?_eq_none_iff.1 htable
          exact .inr ⟨⟨⟨hnamed, hcolumns, hindexes⟩, hseen⟩, hrest⟩
    · rw [tablesDefect?_of_blank hnamed] at h
      cases h
      exact .inl (.blank hnamed)
  · rintro (h | ⟨⟨hwell, hseen⟩, hrest⟩)
    · cases h with
      | blank unnamed => exact tablesDefect?_of_blank unnamed
      | repeated named repeated => exact tablesDefect?_of_repeated named repeated
      | column named unseen repeated =>
        rw [tablesDefect?_cons named unseen,
          tableDefect?_eq_some_iff.2 (.inl ⟨_, repeated, rfl⟩)]
        rfl
      | index named unseen columns repeated =>
        rw [tablesDefect?_cons named unseen,
          tableDefect?_eq_some_iff.2 (.inr ⟨columns, _, repeated, rfl⟩)]
        rfl
    · rw [tablesDefect?_cons hwell.named hseen,
        tableDefect?_eq_none_iff.2 ⟨hwell.columns, hwell.indexes⟩]
      exact hrest

theorem hasDefect_of_mem_iff {seen' : List String} (h : ∀ name, name ∈ seen ↔ name ∈ seen')
    (hd : t.HasDefect database seen d) : t.HasDefect database seen' d := by
  cases hd with
  | blank unnamed => exact .blank unnamed
  | repeated named repeated => exact .repeated named ((h _).1 repeated)
  | column named unseen repeated => exact .column named (mt (h _).2 unseen) repeated
  | index named unseen columns repeated => exact .index named (mt (h _).2 unseen) columns repeated

theorem tablesDefect?_eq_some_iff : tablesDefect? database seen tables = some d ↔
    ∃ before t after, tables = before ++ t :: after ∧
      ((∀ b ∈ before, b.WellNamed) ∧ DistinctBeside seen (before.map Table.name)) ∧
        t.HasDefect database (before.map Table.name ++ seen) d := by
  induction tables generalizing seen with
  | nil => simp [tablesDefect?]
  | cons first tables ih =>
    rw [exists_parted_cons_iff, tablesDefect?_cons_eq_some_iff, ih]
    simp only [List.map_cons, distinctBeside_cons_iff, List.forall_mem_cons]
    have hnames (before : List String) (name : String) :
        name ∈ before ++ first.name :: seen ↔ name ∈ first.name :: before ++ seen := by
      simp [or_left_comm]
    refine or_congr (by simp [DistinctBeside]) ⟨?_, ?_⟩
    · rintro ⟨⟨hfirst, hseen⟩, before, t, after, htables, ⟨hwell, hdistinct⟩, hd⟩
      exact ⟨before, t, after, htables, ⟨⟨hfirst, hwell⟩, hseen, hdistinct⟩,
        hasDefect_of_mem_iff (hnames _) hd⟩
    · rintro ⟨before, t, after, htables, ⟨⟨hfirst, hwell⟩, hseen, hdistinct⟩, hd⟩
      exact ⟨⟨hfirst, hseen⟩, before, t, after, htables, ⟨hwell, hdistinct⟩,
        hasDefect_of_mem_iff (fun name => (hnames _ name).symm) hd⟩

end Tables

/-! ## Whole snapshots -/

/-- What is wrong with a snapshot first: with one of its tables behind others that are as they
should be, or else with its relationships. -/
inductive FirstDefect (s : Snapshot) : Defect → Prop where
  | table {before after : List Table} {t : Table} {d : Defect}
    (parted : s.tables = before ++ t :: after) (wellNamed : ∀ b ∈ before, b.WellNamed)
    (distinct : (before.map Table.name).Nodup)
    (defect : t.HasDefect s.databaseName (before.map Table.name) d) : FirstDefect s d
  | relationship {key : String} (tables : ∀ t ∈ s.tables, t.WellNamed)
    (distinct : (s.tables.map Table.name).Nodup)
    (repeated : FirstRepeated (s.relationships.map Relationship.key) key) :
    FirstDefect s (.duplicateRelationship key)

section Whole

variable {s : Snapshot} {d : Defect}

theorem defect?_eq_some_iff : s.defect? = some d ↔ s.FirstDefect d := by
  rw [defect?, Option.or_eq_some_iff, tablesDefect?_eq_some_iff, tablesDefect?_nil_eq_none_iff]
  simp only [distinctBeside_nil, List.append_nil, Option.map_eq_some_iff,
    firstRepeated?_nil_eq_some_iff]
  constructor
  · rintro (⟨before, t, after, hparted, ⟨hwell, hdistinct⟩, hd⟩ |
      ⟨⟨hwell, hdistinct⟩, key, hkey, rfl⟩)
    · exact .table hparted hwell hdistinct hd
    · exact .relationship hwell hdistinct hkey
  · intro h
    cases h with
    | table parted wellNamed distinct defect =>
      exact .inl ⟨_, _, _, parted, ⟨wellNamed, distinct⟩, defect⟩
    | relationship tables distinct repeated =>
      exact .inr ⟨⟨tables, distinct⟩, _, repeated, rfl⟩

theorem validated_eq_ok_iff : s.validated = .ok s ↔ s.WellNamed := by
  rw [← defect?_eq_none_iff, validated]
  cases s.defect? with
  | none => simp
  | some d => simp

theorem validated_eq_error_iff {failure : Failure} : s.validated = .error failure ↔
    ∃ d, s.FirstDefect d ∧ .validation d.message = failure := by
  simp only [← defect?_eq_some_iff, validated]
  cases s.defect? with
  | none => simp
  | some d => simp

end Whole

end Snapshot

/-! ## Keys and the columns that they stand for -/

section Joined

variable {α : Type} {a a' b b' : List α}

/-- Texts that are joined by a character are told apart where it first stands. -/
theorem append_cons_inj {x : α} (ha : x ∉ a) (ha' : x ∉ a') (h : a ++ x :: b = a' ++ x :: b') :
    a = a' ∧ b = b' := by
  rcases List.append_eq_append_iff.1 h with ⟨c, rfl, hc⟩ | ⟨c, rfl, hc⟩
  · cases c with
    | nil => exact ⟨a.append_nil.symm, (List.cons.inj hc).2⟩
    | cons y c =>
      cases hc
      simp at ha'
  · cases c with
    | nil => exact ⟨a'.append_nil, (List.cons.inj hc).2.symm⟩
    | cons y c =>
      cases hc
      simp at ha

/-- Texts that are joined by an arrow are told apart where it first stands. -/
theorem append_cons_cons_inj {x y : α} (hne : x ≠ y) (ha : ¬ [x, y] <:+: a) (ha' : ¬ [x, y] <:+: a')
    (h : a ++ x :: y :: b = a' ++ x :: y :: b') : a = a' ∧ b = b' := by
  rcases List.append_eq_append_iff.1 h with ⟨c, rfl, hc⟩ | ⟨c, rfl, hc⟩
  · match c, hc with
    | [], hc => exact ⟨a.append_nil.symm, (List.cons.inj (List.cons.inj hc).2).2⟩
    | [z], hc =>
      cases hc
      exact absurd rfl hne
    | z :: w :: c, hc =>
      cases hc
      exact absurd ⟨a, c, by simp⟩ ha'
  · match c, hc with
    | [], hc => exact ⟨a'.append_nil, (List.cons.inj (List.cons.inj hc).2).2.symm⟩
    | [z], hc =>
      cases hc
      exact absurd rfl hne
    | z :: w :: c, hc =>
      cases hc
      exact absurd ⟨a', c, by simp⟩ ha

end Joined

namespace Relationship

/-- The columns that a relationship links. -/
def link (r : Relationship) : (String × String) × (String × String) :=
  ((r.parentTable, r.parentColumn), (r.childTable, r.childColumn))

/-- The joints of the key are told from the names that it joins. -/
structure IsPlain (r : Relationship) : Prop where
  parentTable : '.' ∉ r.parentTable.toList
  parentColumn : ¬ ['-', '>'] <:+: r.parentColumn.toList
  childColumn : '.' ∉ r.childColumn.toList

instance (r : Relationship) : Decidable r.IsPlain :=
  decidable_of_iff ('.' ∉ r.parentTable.toList ∧ ¬ ['-', '>'] <:+: r.parentColumn.toList ∧
    '.' ∉ r.childColumn.toList)
    ⟨fun h => ⟨h.1, h.2.1, h.2.2⟩, fun h => ⟨h.parentTable, h.parentColumn, h.childColumn⟩⟩

variable {r r' : Relationship}

theorem toList_key : r.key.toList = r.parentTable.toList ++
    '.' :: (r.parentColumn.toList ++ '-' :: '>' :: (r.childTable.toList ++
      '.' :: r.childColumn.toList)) := by
  simp [key]

theorem key_eq_of_link_eq (h : r.link = r'.link) : r.key = r'.key := by
  simp only [link, Prod.mk.injEq] at h
  simp only [key, h]

/-- Among relationships with plain names, those with one key link the same columns. -/
theorem key_eq_key_iff (h : r.IsPlain) (h' : r'.IsPlain) : r.key = r'.key ↔ r.link = r'.link := by
  refine ⟨fun hkey => ?_, key_eq_of_link_eq⟩
  have htext := congrArg String.toList hkey
  rw [toList_key, toList_key] at htext
  obtain ⟨hparentTable, htext⟩ := append_cons_inj h.parentTable h'.parentTable htext
  obtain ⟨hparentColumn, htext⟩ :=
    append_cons_cons_inj (by decide) h.parentColumn h'.parentColumn htext
  -- Dots in the name of the child table stand in front of the last one.
  have htext := congrArg List.reverse htext
  simp only [List.reverse_append, List.reverse_cons, List.append_assoc,
    List.singleton_append] at htext
  obtain ⟨hchildColumn, hchildTable⟩ := append_cons_inj (by simpa using h.childColumn)
    (by simpa using h'.childColumn) htext
  rw [link, link, String.toList_inj.1 hparentTable, String.toList_inj.1 hparentColumn,
    String.toList_inj.1 (List.reverse_inj.1 hchildTable),
    String.toList_inj.1 (List.reverse_inj.1 hchildColumn)]

end Relationship

namespace Snapshot

variable {s : Snapshot}

/-- Among relationships with plain names, keys differ where other columns are linked. -/
theorem nodup_keys_iff (h : ∀ r ∈ s.relationships, r.IsPlain) :
    (s.relationships.map Relationship.key).Nodup ↔
      (s.relationships.map Relationship.link).Nodup := by
  rw [List.Nodup, List.pairwise_map, List.Nodup, List.pairwise_map]
  refine List.Pairwise.iff_of_mem fun hr hr' => ?_
  rw [Ne, Relationship.key_eq_key_iff (h _ hr) (h _ hr')]

theorem ofText_eq_validated {text : String} (h : Json.decodeText decode text = .ok s) :
    ofText text = s.validated := by
  rw [ofText, h]
  rfl

theorem decodeText_toText (h : s.analyzedAt.IsSupported) :
    Json.decodeText decode s.toText = .ok s := by
  have hread : Json.read s.toText = ⟨s.toJson, false⟩ := Json.read_pretty s.writable
  rw [Json.decodeText, hread, decode_toJson (Instant.ofText?_toText h)]
  rfl

/-- A snapshot is accepted exactly if it is well named, and otherwise refused for its first defect,
also if it is read from a text, such as its own. As long as relationships have plain names, their
keys differ exactly if they link different columns. -/
theorem validated_iff (s : Snapshot) :
    (s.validated = .ok s ↔ s.WellNamed) ∧
    (∀ failure, s.validated = .error failure ↔
      ∃ d, s.FirstDefect d ∧ .validation d.message = failure) ∧
    (∀ text, Json.decodeText decode text = .ok s → ofText text = s.validated) ∧
    (s.analyzedAt.IsSupported → Json.decodeText decode s.toText = .ok s) ∧
    ((∀ r ∈ s.relationships, r.IsPlain) →
      ((s.relationships.map Relationship.key).Nodup ↔
        (s.relationships.map Relationship.link).Nodup)) :=
  ⟨validated_eq_ok_iff, fun _ => validated_eq_error_iff, fun _ => ofText_eq_validated,
    decodeText_toText, nodup_keys_iff⟩

namespace Sample

def column (name : String) : Column :=
  ⟨name, "int", none, none, none, false, false, false, false, false, none, none, .none, ∅⟩

def table (name : String) (columns : List String) : Table :=
  ⟨name, "dbo", columns.map column, [], []⟩

def relationship (parentTable parentColumn childTable childColumn : String) : Relationship :=
  ⟨"FK", parentTable, parentColumn, childTable, childColumn, .oneToMany, "NoAction", "NoAction"⟩

/-- The second table repeats a column, the third one a table, and there is a relationship twice. -/
def misnamed : Snapshot where
  databaseName := "db"
  serverName := "server"
  version := "1"
  analyzedAt := ⟨1700000000, 500⟩
  tables := [table "T" ["a", "b"], table "U" ["a", "c", "a"], table "T" []]
  relationships := [relationship "T" "a" "U" "c", relationship "T" "a" "U" "c"]

theorem validated_iff_misnamed : misnamed.FirstDefect (.duplicateColumn "a" "U") ∧
    misnamed.analyzedAt.IsSupported ∧ (∀ r ∈ misnamed.relationships, r.IsPlain) ∧
    ofText misnamed.toText = .error (.validation "Duplicate column 'a' in table U") ∧
    ((misnamed.relationships.map Relationship.key).Nodup ↔
      (misnamed.relationships.map Relationship.link).Nodup) := by
  obtain ⟨-, hrefused, hread, htext, hkeys⟩ := validated_iff misnamed
  have hdefect : misnamed.FirstDefect (.duplicateColumn "a" "U") := by
    have hparted : misnamed.tables =
        [table "T" ["a", "b"]] ++ table "U" ["a", "c", "a"] :: [table "T" []] := rfl
    refine .table hparted (by decide) (by decide) ?_
    exact .column (by decide) (by decide) ⟨["a", "c"], [], rfl, by decide, by decide⟩
  have hsupported : misnamed.analyzedAt.IsSupported := by decide
  have hplain : ∀ r ∈ misnamed.relationships, r.IsPlain := by decide
  refine ⟨hdefect, hsupported, hplain, ?_, hkeys hplain⟩
  rw [hread _ (htext hsupported)]
  exact (hrefused _).2 ⟨_, hdefect, rfl⟩

/-- The child refers to a column of `T` whose name has a dot in it, and to one of `T.x`. -/
def ambiguous : Snapshot where
  databaseName := "db"
  serverName := "server"
  version := "1"
  analyzedAt := ⟨1700000000, 0⟩
  tables := [table "T" ["x.y"], table "T.x" ["y"], table "U" ["k"]]
  relationships := [relationship "T" "x.y" "U" "k", relationship "T.x" "y" "U" "k"]

/-- All names differ and different columns are linked, but both keys are `T.x.y->U.k`. -/
theorem ambiguous_refused : (∀ t ∈ ambiguous.tables, t.WellNamed) ∧
    (ambiguous.tables.map Table.name).Nodup ∧
    (ambiguous.relationships.map Relationship.link).Nodup ∧
    ambiguous.validated = .error (.validation "Duplicate relationship T.x.y->U.k") := by
  refine ⟨by decide, by decide, by decide, ?_⟩
  have hdefect : ambiguous.defect? = some (.duplicateRelationship "T.x.y->U.k") := by decide
  rw [validated, hdefect]
  rfl

end Sample

end Snapshot

end SchemaCodegen
