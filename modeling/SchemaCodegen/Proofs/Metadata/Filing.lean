import SchemaCodegen.Proofs.Metadata.Tables

/-!
# Filing entities under their keys

A sync files the entities of one kind one after the other: what stands under an entity's key gives
way to a record that follows from it and from the entity (`Filed.file`). Under keys that occur once
this happens once (`getElem?_foldl_file_of_mem`), and under all others nothing happens. What a
record is named is settled when the first entity is filed under its key (`NamedBy`).
-/

namespace SchemaCodegen

namespace Filed

variable {α β ν : Type} {key : β → String} {record : β → Option α → α} {records : Filed α}

/-- The records with one more entity; its record follows from the one that was found. -/
def file (key : β → String) (record : β → Option α → α) (records : Filed α) (b : β) : Filed α :=
  records.insert (key b) (record b records[key b]?)

theorem getElem?_file (b : β) (k : String) : (file key record records b)[k]? =
    if k = key b then some (record b records[k]?) else records[k]? := by
  rw [file, getElem?_insert]
  by_cases h : k = key b
  · rw [if_pos h, if_pos h, h]
  · rw [if_neg h, if_neg h]

theorem getElem?_foldl_file_of_not_mem {bs : List β} {k : String} (h : k ∉ bs.map key) :
    (bs.foldl (file key record) records)[k]? = records[k]? := by
  induction bs generalizing records with
  | nil => rfl
  | cons b bs ih =>
    rw [List.map_cons, List.mem_cons, not_or] at h
    rw [List.foldl_cons, ih h.2, getElem?_file, if_neg h.1]

/-- Of entities with different keys, each leaves the record that follows from what it found. -/
theorem getElem?_foldl_file_of_mem {bs : List β} (hkeys : (bs.map key).Nodup) {b : β}
    (hb : b ∈ bs) :
    (bs.foldl (file key record) records)[key b]? = some (record b records[key b]?) := by
  induction bs generalizing records with
  | nil => cases hb
  | cons first bs ih =>
    rw [List.map_cons, List.nodup_cons] at hkeys
    rw [List.foldl_cons]
    rcases List.mem_cons.1 hb with rfl | hb
    · rw [getElem?_foldl_file_of_not_mem hkeys.1, getElem?_file, if_pos rfl]
    · have hne : key b ≠ key first := fun h => hkeys.1 (h ▸ List.mem_map_of_mem hb)
      rw [ih hkeys.2 hb, getElem?_file, if_neg hne]

/-- A record has come from an entity with its key, or there was none and it was there before. -/
theorem of_getElem?_foldl_file {bs : List β} {k : String} {r : α}
    (h : (bs.foldl (file key record) records)[k]? = some r) :
    (∃ b ∈ bs, key b = k ∧ ∃ found?, r = record b found?) ∨
      k ∉ bs.map key ∧ records[k]? = some r := by
  induction bs generalizing records with
  | nil => exact .inr ⟨List.not_mem_nil, h⟩
  | cons b bs ih =>
    rcases ih h with ⟨b', hb', hfiled⟩ | ⟨hk, hr⟩
    · exact .inl ⟨b', List.mem_cons_of_mem _ hb', hfiled⟩
    · rw [getElem?_file] at hr
      split at hr
      · next hkey =>
        cases hr
        exact .inl ⟨b, List.mem_cons_self, hkey.symm, _, rfl⟩
      · next hkey =>
        rw [List.map_cons, List.mem_cons, not_or]
        exact .inr ⟨⟨hkey, hk⟩, hr⟩

/-! ## What records show

A view of a record is a part of what it says. The view that filing leaves may depend on the entity
and on the view that was found, but on nothing else of the record. -/

/-- What is shown after entities were filed under one key, one after the other. -/
def shownAfter (next : β → Option ν → ν) (bs : List β) (shown? : Option ν) : Option ν :=
  bs.foldl (fun shown? b => some (next b shown?)) shown?

theorem shownAfter_append {next : β → Option ν → ν} (bs bs' : List β) (shown? : Option ν) :
    shownAfter next (bs ++ bs') shown? = shownAfter next bs' (shownAfter next bs shown?) :=
  List.foldl_append

/-- What is shown and never changed, was there before or comes from the first entity. -/
theorem shownAfter_getD (entityView : β → ν) (bs : List β) (shown? : Option ν) :
    shownAfter (fun b shown? => shown?.getD (entityView b)) bs shown? =
      shown?.or (bs.head?.map entityView) := by
  induction bs generalizing shown? with
  | nil => exact Option.or_none.symm
  | cons b bs ih =>
    refine (ih _).trans ?_
    cases shown? <;> rfl

section View

variable {view : α → ν}

theorem map_getElem?_file_eq (next : β → Option ν → ν)
    (hnext : ∀ b found?, view (record b found?) = next b (found?.map view)) (b : β) (k : String) :
    (file key record records b)[k]?.map view =
      shownAfter next ([b].filter (key · == k)) (records[k]?.map view) := by
  rw [getElem?_file]
  by_cases h : k = key b
  · subst h
    simp [shownAfter, hnext]
  · have hne : ¬ key b = k := fun e => h e.symm
    simp [shownAfter, h, hne]

/-- Filing shows of each record what comes of the entities with its key. -/
theorem map_getElem?_foldl_file_eq (next : β → Option ν → ν)
    (hnext : ∀ b found?, view (record b found?) = next b (found?.map view)) (bs : List β)
    (k : String) : (bs.foldl (file key record) records)[k]?.map view =
      shownAfter next (bs.filter (key · == k)) (records[k]?.map view) := by
  induction bs generalizing records with
  | nil => rfl
  | cons b bs ih =>
    rw [List.foldl_cons, ih, map_getElem?_file_eq next hnext, ← shownAfter_append,
      ← List.filter_append, List.singleton_append]

/-- What a record shows and filing never changes, is settled by the first entity filed under its
key, unless a record was there before. -/
theorem map_getElem?_foldl_file {entityView : β → ν}
    (hnew : ∀ b, view (record b none) = entityView b)
    (hkept : ∀ b r, view (record b (some r)) = view r) (bs : List β) (k : String) :
    (bs.foldl (file key record) records)[k]?.map view =
      (records[k]?.map view).or ((bs.find? (key · == k)).map entityView) := by
  rw [map_getElem?_foldl_file_eq (fun b shown? => shown?.getD (entityView b)), shownAfter_getD,
    List.head?_filter]
  intro b found?
  cases found? with
  | none => exact hnew b
  | some r => exact hkept b r

theorem map_getElem?_modify {f : α → α} (hkept : ∀ r, view (f r) = view r)
    (k key : String) : (records.modify k f)[key]?.map view = records[key]?.map view := by
  rw [getElem?_modify]
  split
  · rw [Option.map_map]
    exact congrArg (fun g => records[key]?.map g) (funext hkept)
  · rfl

theorem map_getElem?_map {f : String → α → α} (hkept : ∀ k r, view (f k r) = view r)
    (key : String) : (records.map f)[key]?.map view = records[key]?.map view := by
  rw [Std.ExtTreeMap.getElem?_map, Option.map_map]
  exact congrArg (fun g => records[key]?.map g) (funext (hkept key))

end View

/-! ## Names -/

/-- Records are named as the first entities that were filed under their keys. -/
def NamedBy (key : β → String) (entityName : β → ν) (seen : List β) (recordName : α → ν)
    (records : Filed α) : Prop :=
  ∀ k : String, records[k]?.map recordName = (seen.find? (key · == k)).map entityName

namespace NamedBy

variable {entityName : β → ν} {seen : List β} {recordName : α → ν}

theorem empty : NamedBy key entityName [] recordName (∅ : Filed α) := fun k => by simp

/-- Entities that are filed name the records under their keys, unless there were some. -/
theorem append {records' : Filed α} {bs : List β}
    (h : NamedBy key entityName seen recordName records)
    (heq : ∀ k : String, records'[k]?.map recordName =
      (records[k]?.map recordName).or ((bs.find? (key · == k)).map entityName)) :
    NamedBy key entityName (seen ++ bs) recordName records' := by
  intro k
  rw [heq k, h k, List.find?_append, Option.map_or]

/-- Names stay as long as nothing changes them and no key comes or goes. -/
theorem of_map_eq {records' : Filed α} (h : NamedBy key entityName seen recordName records)
    (heq : ∀ k : String, records'[k]?.map recordName = records[k]?.map recordName) :
    NamedBy key entityName seen recordName records' :=
  fun k => (heq k).trans (h k)

end NamedBy

end Filed

end SchemaCodegen
