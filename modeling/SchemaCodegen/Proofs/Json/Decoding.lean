import SchemaCodegen.Json.Decoder
import SchemaCodegen.Json.Printer

/-!
# Decoding what was encoded

When a decoder gives back what was written. For records the members of each field are looked at on
their own: `Record.Reads record members a` says that the record reads `a` wherever its members
stand between members of other names, and the records that are built field by field read what
their fields read (`Reads.seq`). Fields that are left out come back as what stands for them.
-/

namespace SchemaCodegen.Json

namespace Decode

section Basic

variable {α : Type} {decode : Decoder α} {encode : α → Json}

theorem list_ofList {as : List α} (h : ∀ a ∈ as, decode (encode a) = .ok a) :
    list decode (ofList encode as) = .ok as := by
  change (as.map encode).mapM decode = _
  induction as with
  | nil => rfl
  | cons a as ih =>
    rw [List.map_cons, List.mapM_cons, h a List.mem_cons_self,
      ih fun b hb => h b (List.mem_cons_of_mem _ hb)]
    rfl

theorem list_ofTexts (ss : List String) : list text (ofTexts ss) = .ok ss :=
  list_ofList fun _ _ => rfl

theorem members_map {entries : List (String × α)}
    (h : ∀ m ∈ entries, decode (encode m.2) = .ok m.2) :
    members decode (.object (entries.map fun (key, a) => (key, encode a))) = .ok entries := by
  change (entries.map fun (key, a) => (key, encode a)).mapM _ = _
  induction entries with
  | nil => rfl
  | cons m entries ih =>
    have hfirst : (decode (encode m.2)).map (m.1, ·) = .ok m :=
      congrArg (Except.map (m.1, ·)) (h m List.mem_cons_self)
    rw [List.map_cons, List.mapM_cons, ih fun m' hm' => h m' (List.mem_cons_of_mem _ hm')]
    exact congrArg (fun first => first >>= fun m => .ok (m :: entries)) hfirst

theorem option_of_ne_null {value : Json} {a : α} (h : decode value = .ok a)
    (hne : value ≠ .null) : option decode value = .ok (some a) := by
  cases value with
  | null => exact absurd rfl hne
  | _ => simp only [option, h, Except.map]

theorem parsed_of_some {parse : String → Option α} {s : String} {a : α} (h : parse s = some a) :
    parsed parse (.text s) = .ok a := by
  unfold parsed
  simp only [text, bind, Except.bind, h]

/-- A name of a list of variants is read as the variant that it stands for. -/
theorem variant_text {variants : List (String × α)} {name : String} {a : α}
    (h : variants.lookup name = some a) : variant variants (.text name) = .ok a := by
  rw [variant, h]

end Basic

end Decode

/-! ## Records -/

/-- Members that a record does not know. -/
def Foreign (names : List String) (members : List (String × Json)) : Prop :=
  ∀ m ∈ members, m.1 ∉ names

namespace Record

section FromName

variable {name : String} {before after : List (String × Json)}

theorem fromName_append (h : Foreign [name] before) :
    fromName name (before ++ after) = fromName name after := by
  rw [fromName, List.dropWhile_append_of_pos]
  · rfl
  · intro m hm
    have hne := h m hm
    rw [List.mem_singleton] at hne
    exact bne_iff_ne.2 hne

theorem fromName_eq_nil (h : Foreign [name] before) : fromName name before = [] := by
  rw [← List.append_nil before, fromName_append h]
  rfl

theorem fromName_cons (value : Json) : fromName name ((name, value) :: after) =
    (name, value) :: after := by
  rw [fromName, List.dropWhile_cons_of_neg]
  simp

end FromName

/-- The record reads `a` from the members, wherever they stand between members of other names. -/
structure Reads {α : Type} (record : Record α) (members : List (String × Json)) (a : α) :
    Prop where
  known : ∀ m ∈ members, m.1 ∈ record.names
  read : record.names.Nodup → ∀ before after, Foreign record.names before →
    Foreign record.names after → record.read (.named (before ++ members ++ after)) = .ok a

namespace Reads

section Fields

variable {α : Type} {name : String} {decoder : Decoder α} {missingName missingPlace :
  Except Refusal α}

theorem field {value : Json} {a : α} (h : decoder value = .ok a) :
    Reads (Record.field name decoder missingName missingPlace) [(name, value)] a := by
  refine ⟨fun m hm => ?_, fun _ before after hbefore hafter => ?_⟩
  · rw [List.mem_singleton.1 hm]
    exact List.mem_singleton_self _
  · have hfrom : fromName name (before ++ [(name, value)] ++ after) = (name, value) :: after := by
      rw [List.append_assoc, fromName_append hbefore, List.singleton_append, fromName_cons]
    simp only [Record.field, hfrom, h, fromName_eq_nil hafter, List.isEmpty_nil, if_true]

theorem field_absent {a : α} (h : missingName = .ok a) :
    Reads (Record.field name decoder missingName missingPlace) [] a := by
  refine ⟨fun m hm => absurd hm List.not_mem_nil, fun _ before after hbefore hafter => ?_⟩
  have hfrom : fromName name (before ++ [] ++ after) = [] := by
    rw [List.append_nil, fromName_append hbefore, fromName_eq_nil hafter]
  simp only [Record.field, hfrom, h]
  rfl

theorem required {value : Json} {a : α} (h : decoder value = .ok a) :
    Reads (Record.required name decoder) [(name, value)] a :=
  field h

/-- A member that is left out without a value is read as no value. -/
theorem optional {encode : α → Json} {a? : Option α}
    (h : ∀ a, a? = some a → decoder (encode a) = .ok a) (hne : ∀ a, encode a ≠ .null) :
    Reads (Record.optional name decoder) (optionalMember name encode a?) a? := by
  cases a? with
  | none => exact field_absent rfl
  | some a => exact field (Decode.option_of_ne_null (h a rfl) (hne a))

/-- A member that is null without a value. -/
theorem nullable {encode : α → Json} {a? : Option α}
    (h : ∀ a, a? = some a → decoder (encode a) = .ok a) (hne : ∀ a, encode a ≠ .null) :
    Reads (Record.optional name decoder) [(name, ofOption encode a?)] a? := by
  cases a? with
  | none => exact field rfl
  | some a => exact field (Decode.option_of_ne_null (h a rfl) (hne a))

theorem nullableText {s? : Option String} :
    Reads (Record.optional name Decode.text) [(name, ofOption .text s?)] s? :=
  nullable (fun _ _ => rfl) fun _ h => nomatch h

theorem requiredText {s : String} :
    Reads (Record.required name Decode.text) [(name, .text s)] s :=
  required rfl

theorem requiredBool {b : Bool} : Reads (Record.required name Decode.bool) [(name, .bool b)] b :=
  required rfl

theorem optionalText {s? : Option String} :
    Reads (Record.optional name Decode.text) (optionalMember name .text s?) s? :=
  optional (fun _ _ => rfl) fun _ h => nomatch h

theorem withDefault {value : Json} {a default : α} (h : decoder value = .ok a) :
    Reads (Record.withDefault name decoder default) [(name, value)] a :=
  field h

theorem withDefault_absent {default : α} :
    Reads (Record.withDefault name decoder default) [] default :=
  field_absent rfl

theorem defaultText {s default : String} :
    Reads (Record.withDefault name Decode.text default) [(name, .text s)] s :=
  withDefault rfl

/-- A member that is left out where it would hold the default. -/
theorem withDefault_unless {isDefault : Bool} {value : Json} {a default : α}
    (h : decoder value = .ok a) (hdefault : isDefault = true → a = default) :
    Reads (Record.withDefault name decoder default)
      (if isDefault then [] else [(name, value)]) a := by
  cases isDefault with
  | true =>
    rw [hdefault rfl]
    exact withDefault_absent
  | false => exact withDefault h

end Fields

theorem of_eq {α : Type} {record : Record α} {members members' : List (String × Json)} {a : α}
    (h : Reads record members a) (heq : members = members') : Reads record members' a :=
  heq ▸ h

section Sequence

variable {α β : Type} {f : α → β} {a : α} {members more : List (String × Json)}

theorem pure (a : α) : Reads (Pure.pure a : Record α) [] a :=
  ⟨fun _ hm => absurd hm List.not_mem_nil, fun _ _ _ _ _ => rfl⟩

/-- Fields that are read one after the other. -/
theorem seq {record : Record (α → β)} {next : Record α} (ha : Reads next more a)
    (hf : Reads record members f) : Reads (record <*> next) (members ++ more) (f a) := by
  refine ⟨fun m hm => ?_, fun hnodup before after hbefore hafter => ?_⟩
  · rcases List.mem_append.1 hm with hm | hm
    · exact List.mem_append_left _ (hf.known m hm)
    · exact List.mem_append_right _ (ha.known m hm)
  · obtain ⟨hleft, hright, hdisjoint⟩ := List.nodup_append.1 hnodup
    have hfirst : record.read (.named (before ++ members ++ (more ++ after))) = .ok f := by
      refine hf.read hleft _ _ (fun m hm h => ?_) fun m hm h => ?_
      · exact hbefore m hm (List.mem_append_left _ h)
      · rcases List.mem_append.1 hm with hm | hm
        · exact hdisjoint _ h _ (ha.known m hm) rfl
        · exact hafter m hm (List.mem_append_left _ h)
    have hsecond : next.read (.named ((before ++ members) ++ more ++ after)) = .ok a := by
      refine ha.read hright _ _ (fun m hm h => ?_) fun m hm h => ?_
      · rcases List.mem_append.1 hm with hm | hm
        · exact hbefore m hm (List.mem_append_right _ h)
        · exact hdisjoint _ (hf.known m hm) _ h rfl
      · exact hafter m hm (List.mem_append_right _ h)
    rw [List.append_assoc] at hsecond
    rw [show before ++ (members ++ more) ++ after = before ++ members ++ (more ++ after) by
      simp only [List.append_assoc]]
    change (Record.and record next).read _ = _
    unfold Record.and
    simp only [Source.after, hfirst, hsecond]

theorem map {record : Record α} (f : α → β) (h : Reads record members a) :
    Reads (f <$> record) members (f a) :=
  h.seq (pure f)

end Sequence

theorem skippedFault_eq_none {names : List String} {members : List (String × Json)}
    (h : ∀ m ∈ members, m.1 ∈ names ∨ m.2.skipFault = none) (place : Nat) :
    skippedFault names place members = none := by
  induction members generalizing place with
  | nil => rfl
  | cons m members ih =>
    obtain ⟨hm, hmembers⟩ := List.forall_mem_cons.1 h
    have hnone : (if names.contains m.1 then none else m.2.skipFault) = none := by
      rcases hm with hknown | hsound
      · rw [if_pos (List.contains_iff_mem.2 hknown)]
      · rw [hsound]
        split <;> rfl
    rw [skippedFault, hnone]
    exact ih hmembers (place + 1)

/-- A record decodes an object from the members that it reads, and skips sound ones of other
names. -/
theorem decode_of_foreign {α : Type} {record : Record α} {members more : List (String × Json)}
    {a : α} (h : Reads record members a) (hnodup : record.names.Nodup)
    (hforeign : Foreign record.names more) (hsound : ∀ m ∈ more, m.2.skipFault = none) :
    record.decode (.object (members ++ more)) = .ok a := by
  have hread : record.read (.named (members ++ more)) = .ok a :=
    h.read hnodup [] more (fun m hm => absurd hm List.not_mem_nil) hforeign
  have hskipped : skippedFault record.names 0 (members ++ more) = none := by
    refine skippedFault_eq_none (fun m hm => ?_) 0
    rcases List.mem_append.1 hm with hm | hm
    · exact .inl (h.known m hm)
    · exact .inr (hsound m hm)
  simp only [Record.decode, hread, hskipped]

/-- A record that reads all members of an object decodes it. -/
theorem decode {α : Type} {record : Record α} {members : List (String × Json)} {a : α}
    (h : Reads record members a) (hnodup : record.names.Nodup) :
    record.decode (.object members) = .ok a := by
  have hwhole : record.decode (.object (members ++ [])) = .ok a :=
    h.decode_of_foreign hnodup (fun m hm => absurd hm List.not_mem_nil)
      fun m hm => absurd hm List.not_mem_nil
  rwa [List.append_nil] at hwhole

end Reads

end Record

/-! ## Decoding what anyone wrote -/

section Accepted

variable {α β : Type} {x : Except Refusal α} {b : β}

theorem exists_of_map_eq_ok {f : α → β} (h : x.map f = .ok b) : ∃ a, x = .ok a ∧ f a = b := by
  cases x with
  | error refusal => cases h
  | ok a => exact ⟨a, rfl, Except.ok.inj h⟩

theorem exists_of_bind_eq_ok {f : α → Except Refusal β} (h : (x >>= f) = .ok b) :
    ∃ a, x = .ok a ∧ f a = .ok b := by
  cases x with
  | error refusal => cases h
  | ok a => exact ⟨a, rfl, h⟩

end Accepted

namespace Decode

variable {α : Type} {decode : Decoder α} {P : α → Prop}

theorem of_option (h : ∀ value a, decode value = .ok a → P a) {value : Json} {a? : Option α}
    (hdecode : option decode value = .ok a?) : ∀ a, a? = some a → P a := by
  unfold option at hdecode
  split at hdecode
  · cases hdecode
    exact fun a ha => nomatch ha
  · obtain ⟨a, hvalue, rfl⟩ := exists_of_map_eq_ok hdecode
    rintro b ⟨⟩
    exact h value a hvalue

theorem of_mapM {β : Type} {f : β → Except Refusal α} (h : ∀ b a, f b = .ok a → P a)
    {items : List β} {as : List α} (hdecode : items.mapM f = .ok as) : ∀ a ∈ as, P a := by
  induction items generalizing as with
  | nil =>
    cases hdecode
    exact fun a ha => nomatch ha
  | cons item items ih =>
    rw [List.mapM_cons] at hdecode
    obtain ⟨a, hitem, hdecode⟩ := exists_of_bind_eq_ok hdecode
    obtain ⟨rest, hitems, hdecode⟩ := exists_of_bind_eq_ok hdecode
    cases hdecode
    exact List.forall_mem_cons.2 ⟨h item a hitem, ih hitems⟩

theorem of_list (h : ∀ value a, decode value = .ok a → P a) {value : Json} {as : List α}
    (hdecode : list decode value = .ok as) : ∀ a ∈ as, P a := by
  cases value with
  | array items => exact of_mapM h hdecode
  | _ => cases hdecode

theorem of_members (h : ∀ value a, decode value = .ok a → P a) {value : Json}
    {entries : List (String × α)} (hdecode : members decode value = .ok entries) :
    ∀ m ∈ entries, P m.2 := by
  cases value with
  | object members =>
    refine of_mapM (fun m entry hentry => ?_) hdecode
    obtain ⟨a, hvalue, rfl⟩ := exists_of_map_eq_ok hentry
    exact h m.2 a hvalue
  | _ => cases hdecode

theorem of_parsed {parse : String → Option α} (h : ∀ s a, parse s = some a → P a) {value : Json}
    {a : α} (hdecode : parsed parse value = .ok a) : P a := by
  obtain ⟨s, -, hparse⟩ := exists_of_bind_eq_ok hdecode
  split at hparse
  · next b hb =>
    cases hparse
    exact h s a hb
  · cases hparse

end Decode

namespace Record

/-- Whatever the record reads has the property. -/
structure Gives {α : Type} (record : Record α) (P : α → Prop) : Prop where
  of_read : ∀ source a, record.read source = .ok a → P a

namespace Gives

variable {α β : Type} {P : α → Prop} {name : String} {decoder : Decoder α}

theorem anything {record : Record α} : record.Gives fun _ => True :=
  ⟨fun _ _ _ => trivial⟩

theorem pure {a : α} (h : P a) : (Pure.pure a : Record α).Gives P := by
  refine ⟨fun source b hb => ?_⟩
  cases hb
  exact h

theorem seq {Q : β → Prop} {record : Record (α → β)} {next : Record α} (ha : next.Gives P)
    (hf : record.Gives fun f => ∀ a, P a → Q (f a)) : (record <*> next).Gives Q := by
  refine ⟨fun source b hb => ?_⟩
  change (Record.and record next).read source = .ok b at hb
  unfold Record.and at hb
  dsimp only at hb
  split at hb
  · next f a hread hnext =>
    cases hb
    exact hf.of_read _ _ hread _ (ha.of_read _ _ hnext)
  all_goals cases hb

theorem map {Q : β → Prop} {f : α → β} {record : Record α} (ha : record.Gives P)
    (hf : ∀ a, P a → Q (f a)) : (f <$> record).Gives Q :=
  seq ha (pure hf)

theorem field {missingName missingPlace : Except Refusal α}
    (h : ∀ value a, decoder value = .ok a → P a) (hname : ∀ a, missingName = .ok a → P a)
    (hplace : ∀ a, missingPlace = .ok a → P a) :
    (Record.field name decoder missingName missingPlace).Gives P := by
  have hmap : ∀ {x : Except Refusal α} {f : Refusal → Complaint} {a : α},
      x.mapError f = .ok a → x = .ok a := by
    intro x f a hx
    cases x with
    | error refusal => cases hx
    | ok b => exact congrArg Except.ok (Except.ok.inj hx)
  refine ⟨fun source a ha => ?_⟩
  unfold Record.field at ha
  dsimp only at ha
  split at ha
  · split at ha
    · exact hname a (hmap ha)
    · next value rest hfrom =>
      split at ha
      · cases ha
      · next b hb =>
        split at ha
        · cases ha
          exact h value a hb
        · cases ha
  · exact hplace a (hmap ha)
  · exact h _ a (hmap ha)

theorem required (h : ∀ value a, decoder value = .ok a → P a) :
    (Record.required name decoder).Gives P :=
  field h (fun _ ha => nomatch ha) fun _ ha => nomatch ha

theorem optional (h : ∀ value a, decoder value = .ok a → P a) :
    (Record.optional name decoder).Gives fun a? => ∀ a, a? = some a → P a := by
  refine field (fun value a? ha => Decode.of_option h ha) ?_ fun _ ha => nomatch ha
  rintro a? ⟨⟩ a ⟨⟩

theorem withDefault {value : α} (h : ∀ value a, decoder value = .ok a → P a) (hvalue : P value) :
    (Record.withDefault name decoder value).Gives P := by
  have hdefault : ∀ a, (.ok value : Except Refusal α) = .ok a → P a := by
    rintro a ⟨⟩
    exact hvalue
  exact field h hdefault hdefault

theorem of_decode {record : Record α} (h : record.Gives P) {value : Json} {a : α}
    (hdecode : record.decode value = .ok a) : P a := by
  unfold Record.decode at hdecode
  split at hdecode
  · split at hdecode
    · next hread _ =>
      cases hdecode
      exact h.of_read _ _ hread
    all_goals cases hdecode
  · split at hdecode
    · cases hdecode
    · next b hread =>
      obtain ⟨-, -, rfl⟩ := exists_of_map_eq_ok hdecode
      exact h.of_read _ _ hread
  · cases hdecode

end Gives

end Record

end SchemaCodegen.Json
