import Mathlib.Data.List.Forall2
import Mathlib.Data.List.Nodup
import SchemaCodegen.Fingerprint
import SchemaCodegen.Proofs.Snapshot.RoundTrip

/-!
# What a canonical text determines

The text that a table's fingerprint is taken of tells the table's structure: its names, its primary
key, and its columns and indexes up to their order (`sameShape_of_compact_eq`). Of a column it
leaves out the convention and the properties. So fingerprints are the same exactly if structures
are, as far as digests do not collide (`ofTable_eq_iff_sameShape`).
-/

namespace SchemaCodegen

open Json (Writable)

/-- The column without what is no part of its shape. -/
def Column.bare (c : Column) : Column :=
  { c with convention := .none, properties := ∅ }

/-- Tables of one structure. -/
structure Table.SameShape (t t' : Table) : Prop where
  name : t.name = t'.name
  schemaName : t.schemaName = t'.schemaName
  primaryKeyColumns : t.primaryKeyColumns = t'.primaryKeyColumns
  columns : (t.columns.map Column.bare).Perm (t'.columns.map Column.bare)
  indexes : t.indexes.Perm t'.indexes

instance (t t' : Table) : Decidable (t.SameShape t') :=
  decidable_of_iff (t.name = t'.name ∧ t.schemaName = t'.schemaName ∧
      t.primaryKeyColumns = t'.primaryKeyColumns ∧
        (t.columns.map Column.bare).Perm (t'.columns.map Column.bare) ∧ t.indexes.Perm t'.indexes)
    ⟨fun ⟨h₁, h₂, h₃, h₄, h₅⟩ => ⟨h₁, h₂, h₃, h₄, h₅⟩,
      fun ⟨h₁, h₂, h₃, h₄, h₅⟩ => ⟨h₁, h₂, h₃, h₄, h₅⟩⟩

namespace Json

/-! ## Values that tell what they are written for -/

theorem ofInt32_injective : Function.Injective ofInt32 := by
  intro n n' h
  have hint : n.toInt = n'.toInt := by simpa [ofInt32, ofInt] using h
  exact Int32.toInt_inj.1 hint

theorem text_injective : Function.Injective text := fun _ _ h => Json.text.inj h

theorem ofList_injective {α : Type} {encode : α → Json} (h : Function.Injective encode) :
    Function.Injective (ofList encode) :=
  fun _ _ heq => List.map_injective_iff.2 h (Json.array.inj heq)

theorem ofTexts_injective : Function.Injective ofTexts := ofList_injective text_injective

theorem ofOption_injective {α : Type} {encode : α → Json} (h : Function.Injective encode)
    (hnull : ∀ a, encode a ≠ .null) : Function.Injective (ofOption encode) := by
  intro a? b? heq
  cases a? with
  | none =>
    cases b? with
    | none => rfl
    | some b => exact absurd heq.symm (hnull b)
  | some a =>
    cases b? with
    | none => exact absurd heq (hnull a)
    | some b => exact congrArg some (h heq)

end Json

namespace Fingerprint

theorem writable_columnShape (c : Column) : Writable (columnShape c) := by
  have hnumber := Json.writable_ofOption Json.writable_ofInt32
  have htext : ∀ s? : Option String, Writable (Json.ofOption .text s?) :=
    Json.writable_ofOption fun _ => trivial
  exact ⟨trivial, trivial, trivial, trivial, trivial, trivial, hnumber _, trivial, hnumber _,
    htext _, htext _, hnumber _, trivial⟩

theorem writable_indexShape (i : Index) : Writable (indexShape i) :=
  ⟨Json.writable_ofTexts _, Json.writable_ofTexts _, Json.writable_ofOption Json.writable_ofTexts _,
    trivial, trivial, trivial, trivial⟩

theorem writable_tableShape (t : Table) : Writable (tableShape t) :=
  ⟨Json.writable_ofList fun c _ => writable_columnShape c,
    Json.writable_ofList fun i _ => writable_indexShape i, trivial, Json.writable_ofTexts _,
    trivial, trivial⟩

theorem bare_eq_of_columnShape_eq {c c' : Column} (h : columnShape c = columnShape c') :
    c.bare = c'.bare := by
  have hnumber := Json.ofOption_injective Json.ofInt32_injective fun n h => nomatch h
  have htext := Json.ofOption_injective Json.text_injective fun s h => nomatch h
  have hmembers := Json.object.inj h
  simp only [List.cons.injEq, Prod.mk.injEq, true_and, and_true, Json.text.injEq, Json.bool.injEq,
    hnumber.eq_iff, htext.eq_iff] at hmembers
  obtain ⟨hdataType, hcomputed, hforeign, hidentity, hnullable, hprimary, hlength, hname,
    hprecision, hcolumn, htable, hscale⟩ := hmembers
  simp only [Column.bare, hdataType, hcomputed, hforeign, hidentity, hnullable, hprimary, hlength,
    hname, hprecision, hcolumn, htable, hscale]

theorem map_bare_eq_of_map_columnShape_eq {cs cs' : List Column}
    (h : cs.map columnShape = cs'.map columnShape) : cs.map Column.bare = cs'.map Column.bare := by
  rw [← List.forall₂_eq_eq_eq, List.forall₂_map_left_iff, List.forall₂_map_right_iff] at h ⊢
  exact h.imp fun _ _ => bare_eq_of_columnShape_eq

theorem indexShape_injective : Function.Injective indexShape := by
  intro i i' h
  have hlist := Json.ofOption_injective Json.ofTexts_injective fun ss h => nomatch h
  have hmembers := Json.object.inj h
  simp only [List.cons.injEq, Prod.mk.injEq, true_and, and_true, Json.text.injEq, Json.bool.injEq,
    Json.ofTexts_injective.eq_iff, hlist.eq_iff] at hmembers
  obtain ⟨hcolumns, hdescending, hincluded, hclustered, hunique, hname⟩ := hmembers
  cases i
  cases i'
  simp_all

/-! ## The order of names -/

section ByName

variable {α β : Type} {name : α → String} {as bs : List α}

theorem byName_perm (name : α → String) (as : List α) : (byName name as).Perm as :=
  List.mergeSort_perm as _

theorem pairwise_byName :
    (byName name as).Pairwise fun a b => (compare (name a) (name b)).isLE = true := by
  refine List.pairwise_mergeSort (fun _ _ _ => Std.TransCmp.isLE_trans) (fun a b => ?_) as
  have hswap : compare (name b) (name a) = (compare (name a) (name b)).swap :=
    Std.OrientedCmp.eq_swap
  rw [hswap]
  cases compare (name a) (name b) <;> rfl

theorem pairwise_lt_byName (hnames : (as.map name).Nodup) :
    (byName name as).Pairwise fun a b => compare (name a) (name b) = .lt := by
  have hdiffer : (byName name as).Pairwise fun a b => name a ≠ name b :=
    List.pairwise_map.1 (((byName_perm name as).map name).nodup_iff.2 hnames)
  refine pairwise_byName.imp₂ (fun a b hle hne => ?_) hdiffer
  have hne : compare (name a) (name b) ≠ .eq := fun heq =>
    hne (Std.LawfulEqCmp.eq_of_compare heq)
  cases hcompare : compare (name a) (name b) with
  | lt => rfl
  | eq => exact absurd hcompare hne
  | gt => rw [hcompare] at hle; cases hle

/-- Entities of different names are put into one order, whatever order they come in. -/
theorem byName_eq_of_perm (h : as.Perm bs) (hnames : (as.map name).Nodup) :
    byName name as = byName name bs := by
  refine List.Perm.eq_of_pairwise (fun a b ha hb hle hge => ?_) pairwise_byName pairwise_byName
    ((byName_perm name as).trans (h.trans (byName_perm name bs).symm))
  have hsame := Std.LawfulEqCmp.eq_of_compare (Std.OrientedCmp.isLE_antisymm hle hge)
  exact List.inj_on_of_nodup_map hnames ((byName_perm name as).mem_iff.1 ha)
    (h.mem_iff.2 ((byName_perm name bs).mem_iff.1 hb)) hsame

theorem map_byName {f : α → β} {name' : β → String} (h : ∀ a, name' (f a) = name a) :
    (byName name as).map f = byName name' (as.map f) :=
  List.map_mergeSort fun a _ b _ => by rw [h, h]

end ByName

theorem map_columnShape_byName (cs : List Column) : (byName Column.name cs).map columnShape =
    (byName Column.name (cs.map Column.bare)).map columnShape := by
  rw [← map_byName (fun c => show c.bare.name = c.name from rfl), List.map_map]
  rfl

/-! ## Tables -/

/-- Tables of one canonical text have one structure. -/
theorem sameShape_of_compact_eq {t t' : Table}
    (h : (tableShape t).compact = (tableShape t').compact) : t.SameShape t' := by
  have hmembers := Json.object.inj
    (Json.eq_of_compact_eq (writable_tableShape t) (writable_tableShape t') h)
  simp only [List.cons.injEq, Prod.mk.injEq, true_and, and_true, Json.text.injEq,
    Json.ofTexts_injective.eq_iff, (Json.ofList_injective indexShape_injective).eq_iff] at hmembers
  obtain ⟨hcolumns, hindexes, hname, hkey, hschema⟩ := hmembers
  refine ⟨hname, hschema, hkey, ?_, ?_⟩
  · have hbare := map_bare_eq_of_map_columnShape_eq (Json.array.inj hcolumns)
    exact ((byName_perm Column.name t.columns).map Column.bare).symm.trans
      (hbare ▸ (byName_perm Column.name t'.columns).map Column.bare)
  · exact (byName_perm Index.name t.indexes).symm.trans
      (hindexes ▸ byName_perm Index.name t'.indexes)

/-- Tables of one structure have one shape, if their columns and indexes are told apart by name. -/
theorem tableShape_eq_of_sameShape {t t' : Table} (h : t.SameShape t')
    (hcolumns : (t.columns.map Column.name).Nodup) (hindexes : (t.indexes.map Index.name).Nodup) :
    tableShape t = tableShape t' := by
  have hbare : ((t.columns.map Column.bare).map Column.name).Nodup := by
    rw [List.map_map]
    exact hcolumns
  have hshapes : Json.ofList columnShape (byName Column.name t.columns) =
      Json.ofList columnShape (byName Column.name t'.columns) := by
    rw [Json.ofList, Json.ofList, map_columnShape_byName t.columns,
      map_columnShape_byName t'.columns, byName_eq_of_perm h.columns hbare]
  rw [tableShape, tableShape, hshapes, byName_eq_of_perm h.indexes hindexes, h.name, h.schemaName,
    h.primaryKeyColumns]

/-- Tables have one fingerprint exactly if they have one structure, unless the digests of their
canonical texts collide. -/
theorem ofTable_eq_iff_sameShape {t t' : Table} (hcolumns : (t.columns.map Column.name).Nodup)
    (hindexes : (t.indexes.map Index.name).Nodup)
    (hfree : Digest.ofText (tableShape t).compact = Digest.ofText (tableShape t').compact →
      (tableShape t).compact = (tableShape t').compact) :
    ofTable t = ofTable t' ↔ t.SameShape t' := by
  constructor
  · intro hsame
    exact sameShape_of_compact_eq (hfree hsame)
  · intro hshape
    rw [ofTable, ofTable, tableShape_eq_of_sameShape hshape hcolumns hindexes]

/-! ### A table with its columns and indexes in another order -/

namespace Shuffled

def column (name : String) (convention : Convention) : Column :=
  ⟨name, "int", none, some 10, none, false, false, false, false, false, none, none, convention, ∅⟩

def index (name : String) (included : Option (List String)) : Index :=
  ⟨name, true, false, ["B", "A"], included, []⟩

def table : Table :=
  ⟨"T", "dbo", [column "A" .none, column "B" .none], [index "I" none, index "J" (some [])], ["B"]⟩

def shuffled : Table :=
  ⟨"T", "dbo", [column "B" .oneWayEncryption, column "A" .none],
    [index "J" (some []), index "I" none], ["B"]⟩

theorem ofTable_shuffled : (table.columns.map Column.name).Nodup ∧
    (table.indexes.map Index.name).Nodup ∧
    (tableShape table).compact = (tableShape shuffled).compact ∧ table.SameShape shuffled ∧
      ofTable table = ofTable shuffled := by
  have hcolumns : (table.columns.map Column.name).Nodup := by decide
  have hindexes : (table.indexes.map Index.name).Nodup := by decide
  have hshape : table.SameShape shuffled := by decide
  have htext := congrArg Json.compact (tableShape_eq_of_sameShape hshape hcolumns hindexes)
  exact ⟨hcolumns, hindexes, htext, hshape,
    (ofTable_eq_iff_sameShape hcolumns hindexes fun _ => htext).2 hshape⟩

/-- Whether an index includes no columns or says nothing of them makes a difference. -/
example : ¬ { table with indexes := [index "I" none] }.SameShape
    { table with indexes := [index "I" (some [])] } := by decide

end Shuffled

end Fingerprint

end SchemaCodegen
