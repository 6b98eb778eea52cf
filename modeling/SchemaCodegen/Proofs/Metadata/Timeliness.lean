import SchemaCodegen.Proofs.Metadata.RoundTrip
import SchemaCodegen.Proofs.Metadata.Tables

/-!
# Times in metadata

Metadata that is read from text, stamped or synced has only times that a clock can show, so it can
be written and read again.
-/

namespace SchemaCodegen

/-! ## Reading -/

section Reading

open Json.Record.Gives

variable {value : Json}

theorem Instant.isSupported_of_decode {t : Instant} (h : Json.Decode.instant value = .ok t) :
    t.IsSupported :=
  Json.Decode.of_parsed (fun _ _ => Instant.isSupported_of_ofText?) h

theorem TableRecord.isTimely_of_decode {r : TableRecord} (h : TableRecord.decode value = .ok r) :
    r.IsTimely := by
  refine of_decode ?_ h
  apply seq anything
  apply seq (required fun _ _ => Instant.isSupported_of_decode)
  apply seq (optional fun _ _ => Instant.isSupported_of_decode)
  apply seq anything
  apply seq anything
  apply seq anything
  apply seq anything
  apply seq anything
  apply map anything
  intro id _ naturalKey _ tableName _ schemaName _ hash _ isActive _ lastGenerated hgenerated
    lastSynced hsynced flags _
  exact ⟨hgenerated, hsynced⟩

theorem HistoryRecord.isSupported_of_decode {r : HistoryRecord}
    (h : HistoryRecord.decode value = .ok r) : r.generatedAt.IsSupported := by
  refine of_decode (P := fun r => r.generatedAt.IsSupported) ?_ h
  apply seq (required fun _ _ => Instant.isSupported_of_decode)
  apply seq anything
  apply seq anything
  apply seq anything
  apply seq anything
  apply seq anything
  apply seq anything
  apply map anything
  intro id _ schemaName _ tableName _ artifact _ outputPath _ outcome _ error _ generatedAt ht
  exact ht

/-- Each record that is read is one of the members. -/
theorem Filed.of_decode {α : Type} {decode : Json.Decoder α} {P : α → Prop}
    (h : ∀ value a, decode value = .ok a → P a) {records : Filed α}
    (hdecode : Filed.decode decode value = .ok records) :
    ∀ (key : String) a, records[key]? = some a → P a := by
  obtain ⟨entries, hentries, rfl⟩ := Json.exists_of_map_eq_ok hdecode
  have hall := Json.Decode.of_members h hentries
  have hkept : ∀ (entries : List (String × α)) (records : Filed α), (∀ m ∈ entries, P m.2) →
      (∀ (key : String) a, records[key]? = some a → P a) → ∀ (key : String) a,
        (entries.foldl (fun records m => records.insert m.1 m.2) records)[key]? = some a →
          P a := by
    intro entries
    induction entries with
    | nil => exact fun records _ hrecords => hrecords
    | cons m entries ih =>
      intro records hentries hrecords
      refine ih _ (fun m hm => hentries m (List.mem_cons_of_mem _ hm)) fun key a ha => ?_
      rw [Std.ExtTreeMap.getElem?_insert] at ha
      split at ha
      · cases ha
        exact hentries m List.mem_cons_self
      · exact hrecords key a ha
  exact hkept entries ∅ hall fun key a ha => by cases ha

theorem Metadata.isTimely_of_decode {m : Metadata} (h : Metadata.decode value = .ok m) :
    m.IsTimely := by
  refine of_decode ?_ h
  apply seq anything
  apply seq anything
  apply seq anything
  apply map (required fun _ _ => Filed.of_decode fun _ _ => TableRecord.isTimely_of_decode)
  intro tables htables columns _ indexes _ relationships _
  exact htables

namespace MetadataDocument

theorem isTimely_empty : MetadataDocument.empty.IsTimely :=
  ⟨fun _ _ hr => (nomatch hr), fun _ hr => (nomatch hr)⟩

theorem isTimely_of_decode {d : MetadataDocument} (h : decode value = .ok d) : d.IsTimely := by
  refine of_decode ?_ h
  apply seq (withDefault (fun _ _ => Json.Decode.of_list fun _ _ =>
    HistoryRecord.isSupported_of_decode) isTimely_empty.history)
  apply map (withDefault (fun _ _ => Metadata.isTimely_of_decode) isTimely_empty.state)
  exact fun state hstate history hhistory => ⟨hstate, hhistory⟩

/-- A document that is read from any text has times that a clock can show. -/
theorem isTimely_of_ofText {s : String} {d : MetadataDocument} (h : ofText s = .ok d) :
    d.IsTimely := by
  unfold ofText Json.decodeText at h
  dsimp only at h
  split at h
  · cases h
  · next read hread =>
    split at h
    · cases h
    · cases h
      exact isTimely_of_decode hread

end MetadataDocument

end Reading

/-! ## Stamping and syncing -/

namespace Metadata

variable {m m' : Metadata} {now : Instant}

theorem IsTimely.markAllGenerated {keys : List String} (hm : m.IsTimely) (hnow : now.IsSupported)
    (h : m.markAllGenerated keys now = .ok m') : m'.IsTimely := by
  obtain ⟨-, rfl⟩ := markAllGenerated_eq_ok_iff.1 h
  intro key r hr
  rw [getElem?_foldl_stamp] at hr
  split at hr
  · obtain ⟨r', hr', rfl⟩ := Option.map_eq_some_iff.1 hr
    refine ⟨?_, (hm key r' hr').2⟩
    rintro t ht
    cases ht
    exact hnow
  · exact hm key r hr

theorem IsTimely.step {fresh : RecordKey → Uuid} {p : Progress} (hp : p.metadata.IsTimely)
    (hnow : now.IsSupported) (t : Table) : (Progress.step fresh now p t).metadata.IsTimely := by
  intro key r hr
  change (syncTableRecord fresh now p.metadata.tables t).1[key]? = some r at hr
  unfold syncTableRecord at hr
  dsimp only at hr
  split at hr
  · next old hold =>
    rw [Std.ExtTreeMap.getElem?_insert] at hr
    split at hr
    · cases hr
      exact ⟨(hp _ old hold).1, hnow⟩
    · exact hp key r hr
  · rw [Std.ExtTreeMap.getElem?_insert] at hr
    split at hr
    · cases hr
      exact ⟨fun t ht => (nomatch ht), hnow⟩
    · exact hp key r hr

theorem IsTimely.sync {fresh : RecordKey → Uuid} (hm : m.IsTimely) (hnow : now.IsSupported)
    (s : Snapshot) : (m.sync fresh now s).1.IsTimely := by
  have hfold : ∀ (ts : List Table) (p : Progress), p.metadata.IsTimely →
      (ts.foldl (Progress.step fresh now) p).metadata.IsTimely := by
    intro ts
    induction ts with
    | nil => exact fun p hp => hp
    | cons t ts ih => exact fun p hp => ih _ (hp.step hnow t)
  intro key r hr
  rw [sync_tables, retireTables, Std.ExtTreeMap.getElem?_map, Option.map_eq_some_iff] at hr
  obtain ⟨old, hold, rfl⟩ := hr
  have htimely := hfold s.tables _ hm key old hold
  split
  · exact ⟨htimely.1, hnow⟩
  · exact htimely

end Metadata

end SchemaCodegen
