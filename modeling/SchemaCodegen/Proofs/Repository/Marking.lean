import SchemaCodegen.Proofs.Metadata.Resync
import SchemaCodegen.Proofs.Repository.RowStore
import SchemaCodegen.Proofs.Repository.Sessions

/-!
# Stamps in the three repositories

In memory the keys are looked up before any table is stamped; a file is read, changed in the same
way and replaced; a database stamps rows first and then counts them. All three come to the same
(`Stamps`, `repositories_stamp_alike`): the tables that are listed get the time if every key is
known, and otherwise nothing changes. Only that a database keeps times in whole microseconds.
-/

namespace SchemaCodegen

namespace Metadata

/-- The metadata with a time put on the tables with these keys. -/
def stampAll (keys : List String) (time : Instant) (m : Metadata) : Metadata :=
  { m with
    tables := m.tables.map fun key r =>
      if key ∈ keys then { r with lastGenerated := some time } else r }

/-- What stamping comes to: all tables that are listed are stamped, or a key is not known and
nothing changes. -/
inductive Stamps (keys : List String) (time : Instant) (m : Metadata) :
    Outcome Unit → Metadata → Prop where
  | stamped (h : ∀ key ∈ keys, key ∈ m.tables) : Stamps keys time m (.ok ()) (m.stampAll keys time)
  | refused {key : String} (h : key ∈ keys) (hunknown : key ∉ m.tables) (what : String) :
      Stamps keys time m (.error (.notFound what)) m

variable {keys : List String} {time : Instant} {m m' : Metadata}

theorem foldl_stamp_eq (keys : List String) (time : Instant) (m : Metadata) :
    keys.foldl (fun m key => m.stamp key time) m = m.stampAll keys time := by
  have hmarked := Marked.foldl_stamp keys time m
  refine Metadata.ext (Std.ExtTreeMap.ext_getElem? fun key => ?_) hmarked.columns hmarked.indexes
    hmarked.relationships
  rw [getElem?_foldl_stamp, stampAll, Std.ExtTreeMap.getElem?_map]
  by_cases hkey : key ∈ keys <;> simp [hkey]

theorem getElem?_stampAll_of_mem {key : String} {r : TableRecord} (hkey : key ∈ keys)
    (hr : m.tables[key]? = some r) :
    (m.stampAll keys time).tables[key]? = some { r with lastGenerated := some time } := by
  rw [stampAll, Std.ExtTreeMap.getElem?_map, hr, Option.map_some, if_pos hkey]

theorem Stamps.getElem? {key : String} {r : TableRecord} (h : Stamps keys time m (.ok ()) m')
    (hkey : key ∈ keys) (hr : m.tables[key]? = some r) :
    m'.tables[key]? = some { r with lastGenerated := some time } := by
  cases h
  exact getElem?_stampAll_of_mem hkey hr

theorem Stamps.of_ok (h : m.markAllGenerated keys time = .ok m') :
    Stamps keys time m (.ok ()) m' := by
  obtain ⟨hknown, rfl⟩ := markAllGenerated_eq_ok_iff.1 h
  rw [foldl_stamp_eq]
  exact .stamped hknown

theorem Stamps.of_error {failure : Failure} (h : m.markAllGenerated keys time = .error failure) :
    Stamps keys time m (.error failure) m := by
  rw [markAllGenerated] at h
  split at h
  · next missing hmissing =>
    cases h
    refine .refused (List.mem_of_find?_eq_some hmissing) (fun hmem => ?_) _
    have hunknown := List.find?_some hmissing
    rw [Std.ExtTreeMap.mem_iff_contains.1 hmem] at hunknown
    cases hunknown
  · cases h

end Metadata

namespace Repository

open Metadata (Stamps)

variable {keys : List String} {time : Instant}

/-! ## In memory -/

theorem Memory.stamps_answer (keys : List String) (time : Instant) (document : MetadataDocument) :
    Stamps keys time document.state (answer (.markGenerated keys time) document).1
      (answer (.markGenerated keys time) document).2.state := by
  rw [answer]
  cases hmark : document.state.markAllGenerated keys time with
  | ok m => exact .of_ok hmark
  | error failure => exact .of_error hmark

/-! ## In a file -/

namespace File

attribute [local irreducible] Path.realParent?

variable {path : Path} {d d' : Disk} {document : MetadataDocument}

/-- The file can be replaced by any document. -/
def Writable (path : Path) (d : Disk) : Prop :=
  ∀ document : MetadataDocument, ∃ d', Procedure.Runs (watched path) (writeDocument path document)
    (d, false) (.ok ()) (d', false)

/-- The change that stamping makes to a document. -/
def stampDocument (keys : List String) (time : Instant) (document : MetadataDocument) :
    Outcome MetadataDocument := do
  return { document with state := ← document.state.markAllGenerated keys time }

theorem runs_answer_markGenerated_iff {step : machine.Step (Disk × Bool)} {reply : Outcome Unit}
    {b b' : Bool} :
    Script.Runs step (answer path (.markGenerated keys time)) (d, b) reply (d', b') ↔
      Procedure.Runs step (changeDocument path (stampDocument keys time)) (d, b) reply (d', b') :=
  Iff.rfl

theorem eq_of_refused {reply : Outcome Unit} (h : Holds path d document)
    (hruns : Script.Runs (watched path) (answer path (.markGenerated keys time)) (d, false) reply
      (d', false)) (hrefused : (Memory.answer (.markGenerated keys time) document).1 ≠ .ok ()) :
    d' = d := by
  rw [Memory.answer_markGenerated] at hrefused
  cases hchange : stampDocument keys time document with
  | ok after =>
    rw [stampDocument] at hchange
    rw [hchange] at hrefused
    exact absurd rfl hrefused
  | error failure =>
    have hnone : ∀ after, stampDocument keys time document = .ok after → after.IsTimely :=
      fun after hafter => by cases hchange.symm.trans hafter
    rcases h.of_changeDocument hnone (runs_answer_markGenerated_iff.1 hruns) with
      ⟨-, after, hafter, -⟩ | ⟨-, -, -, -, hsame⟩ | ⟨hfailed, -⟩
    · cases hchange.symm.trans hafter
    · exact hsame
    · cases hfailed

theorem stamps_answer {reply : Outcome Unit} (h : Holds path d document) (htime : time.IsSupported)
    (hruns : Script.Runs (watched path) (answer path (.markGenerated keys time)) (d, false) reply
      (d', false)) :
    ∃ after, Holds path d' after ∧ Stamps keys time document.state reply after.state ∧
      after.history = document.history ∧ (reply ≠ .ok () → d' = d) := by
  have htimely : (Call.markGenerated keys time).IsTimely := htime
  rcases h.of_answer htimely hruns with ⟨-, rfl, hholds⟩ | ⟨hfailed, -⟩
  · exact ⟨_, hholds, Memory.stamps_answer keys time document, Memory.history_answer rfl,
      eq_of_refused h hruns⟩
  · cases hfailed

theorem exists_stamps_answer (h : Holds path d document) (hwritable : Writable path d) :
    ∃ reply d', Script.Runs (watched path) (answer path (.markGenerated keys time)) (d, false) reply
      (d', false) := by
  cases hchange : stampDocument keys time document with
  | error failure =>
    have hruns := h.runs_changeDocument_refused hchange
    exact ⟨.error failure, d, runs_answer_markGenerated_iff.2 hruns⟩
  | ok after =>
    obtain ⟨d', hwrite⟩ := hwritable after
    have hruns := h.runs_changeDocument hchange hwrite
    exact ⟨.ok (), d', runs_answer_markGenerated_iff.2 hruns⟩

end File

/-! ## In a database -/

namespace Database

open SchemaCodegen.Database

variable {rows : Rows}

theorem getElem?_fileBy_map {α : Type} {key : α → String} {f : α → α} (hf : ∀ r, key (f r) = key r)
    (rs : List α) (k : String) : (fileBy key (rs.map f))[k]? = (fileBy key rs)[k]?.map f := by
  have hfiled : ∀ {filed filed' : Filed α}, (∀ k : String, filed'[k]? = filed[k]?.map f) →
      ((rs.map f).foldl (fun filed r => filed.insert (key r) r) filed')[k]? =
        (rs.foldl (fun filed r => filed.insert (key r) r) filed)[k]?.map f := by
    induction rs with
    | nil => exact fun h => h k
    | cons r rs ih =>
      intro filed filed' h
      refine ih fun k => ?_
      dsimp only
      rw [hf, Filed.getElem?_insert, Filed.getElem?_insert, h k]
      split <;> rfl
  exact hfiled fun k => by simp

theorem key_of_getElem?_fileBy {α : Type} {key : α → String} {rs : List α} {k : String} {r : α}
    (h : (fileBy key rs)[k]? = some r) : key r = k := by
  change (rs.foldl (Filed.file key fun r _ => r) ∅)[k]? = some r at h
  rcases Filed.of_getElem?_foldl_file h with ⟨r', -, hkey, -, rfl⟩ | ⟨-, hnone⟩
  · exact hkey
  · simp at hnone

theorem metadata_stamp (time : Instant) (keys : List String) (rows : Rows) :
    (rows.stamp time keys).metadata = rows.metadata.stampAll keys time := by
  have hrecords : (rows.stamp time keys).tables.map TableRow.record =
      (rows.tables.map TableRow.record).map fun r : TableRecord =>
        if r.naturalKey ∈ keys then { r with lastGenerated := some time } else r := by
    rw [Rows.stamp, List.map_map, List.map_map]
    refine List.map_congr_left fun row _ => ?_
    simp only [Function.comp_apply]
    split <;> next h => simp [TableRow.record, h]
  refine Metadata.ext (Std.ExtTreeMap.ext_getElem? fun k => ?_) rfl rfl rfl
  rw [Rows.metadata, hrecords, getElem?_fileBy_map fun r => by split <;> rfl, Metadata.stampAll,
    Std.ExtTreeMap.getElem?_map]
  change _ = Option.map _ (fileBy TableRecord.naturalKey (rows.tables.map TableRow.record))[k]?
  cases hr : (fileBy TableRecord.naturalKey (rows.tables.map TableRow.record))[k]? with
  | none => rfl
  | some r => rw [Option.map_some, Option.map_some, key_of_getElem?_fileBy hr]

theorem mem_fileBy {α : Type} {key : α → String} {rs : List α} (hkeys : (rs.map key).Nodup)
    {k : String} : k ∈ fileBy key rs ↔ k ∈ rs.map key := by
  change k ∈ rs.foldl (Filed.file key fun r _ => r) ∅ ↔ _
  rw [Std.ExtTreeMap.mem_iff_isSome_getElem?]
  by_cases hk : k ∈ rs.map key
  · obtain ⟨r, hr, rfl⟩ := List.mem_map.1 hk
    rw [Filed.getElem?_foldl_file_of_mem hkeys hr]
    exact iff_of_true rfl hk
  · rw [Filed.getElem?_foldl_file_of_not_mem hk]
    exact iff_of_false (by simp) hk

theorem mem_tables_metadata (hrows : rows.tableKeys.Nodup) {key : String} :
    key ∈ rows.metadata.tables ↔ key ∈ rows.tableKeys := by
  have hkeys : (rows.tables.map TableRow.record).map TableRecord.naturalKey = rows.tableKeys :=
    List.map_map
  rw [← hkeys] at hrows ⊢
  exact mem_fileBy hrows

theorem stampAll_distinctKeys (keys : List String) (time : Instant) (m : Metadata) :
    m.stampAll (distinctKeys keys) time = m.stampAll keys time := by
  simp only [Metadata.stampAll, mem_distinctKeys]

/-- The rows are stamped, in the one run that there is, with the time cut to whole microseconds. The
transaction is committed if all went well and undone if not. The rows that were counted are never
more than the keys, and the failure says how many keys have no row. -/
def StampsRows (keys : List String) (time : Instant) (rows : Rows) : Prop :=
  ∃ (outcome : Outcome Unit) (rows' : Rows) (ending : Statement),
    (∀ outcome' store', (markGenerated keys time).Runs Store.answer (.idle rows) outcome' store' ↔
      outcome' = outcome ∧ store' = ⟨rows', none, stampingAsks time keys ending⟩) ∧
    Stamps keys time.toMicroseconds rows.metadata outcome rows'.metadata ∧
    (outcome = .ok () → ending = .commit) ∧
    (outcome ≠ .ok () → ending = .rollback ∧ rows' = rows ∧
      outcome = .error (rows.missing (distinctKeys keys))) ∧
    UInt64.ofNat (rows.countMatching (distinctKeys keys)) ≤ .ofNat (distinctKeys keys).length

theorem stampsRows (hrows : rows.tableKeys.Nodup) (hlength : keys.length < 2 ^ 64) :
    StampsRows keys time rows := by
  have hcount := (length_distinctKeys_le keys).trans_lt hlength
  have hle := countMatching_le hrows (nodup_distinctKeys keys)
  have hle' : UInt64.ofNat (rows.countMatching (distinctKeys keys)) ≤
      .ofNat (distinctKeys keys).length :=
    (UInt64.ofNat_le_iff_le (hle.trans_lt hcount) hcount).2 hle
  by_cases hknown : ∀ key ∈ keys, key ∈ rows.tableKeys
  · refine ⟨.ok (), rows.stamp time.toMicroseconds (distinctKeys keys), .commit, fun _ _ => ?_, ?_,
      fun _ => rfl, fun hne => absurd rfl hne, hle'⟩
    · rw [runs_markGenerated_iff hrows hlength, if_pos hknown]
    · rw [metadata_stamp, stampAll_distinctKeys]
      exact .stamped fun key hkey => (mem_tables_metadata hrows).2 (hknown key hkey)
  · refine ⟨.error (rows.missing (distinctKeys keys)), rows, .rollback, fun _ _ => ?_, ?_, nofun,
      fun _ => ⟨rfl, rfl, rfl⟩, hle'⟩
    · rw [runs_markGenerated_iff hrows hlength, if_neg hknown]
    · obtain ⟨key, hunknown⟩ := Classical.not_forall.1 hknown
      obtain ⟨hkey, hunknown⟩ := Classical.not_imp.1 hunknown
      exact .refused hkey (fun hmem => hunknown ((mem_tables_metadata hrows).1 hmem)) _

end Database

/-! ## All three -/

/-- The metadata that is held in memory is stamped, and the history stays. -/
def Memory.StampsDocument (keys : List String) (time : Instant) (document : MetadataDocument) :
    Prop :=
  let answered := answer (.markGenerated keys time) document
  Stamps keys time document.state answered.1 answered.2.state ∧
    answered.2.history = document.history

/-- The document in a file is stamped in every run in which no operation on the disk fails, and
there is such a run if the file can be replaced. A refusal leaves the whole disk as it was. -/
structure File.StampsDocument (keys : List String) (time : Instant) (path : Path) (d : Disk)
    (document : MetadataDocument) : Prop where
  runs : Writable path d → ∃ reply d', Script.Runs (watched path)
    (answer path (.markGenerated keys time)) (d, false) reply (d', false)
  stamps : ∀ {reply : Outcome Unit} {d' : Disk}, Script.Runs (watched path)
    (answer path (.markGenerated keys time)) (d, false) reply (d', false) →
      ∃ after, Holds path d' after ∧ Stamps keys time document.state reply after.state ∧
        after.history = document.history ∧ (reply ≠ .ok () → d' = d)

/-- Every repository stamps the tables that are listed if it knows all of them, and otherwise
refuses to and changes nothing. -/
theorem repositories_stamp_alike (hlength : keys.length < 2 ^ 64) (htime : time.IsSupported) :
    (∀ document, Memory.StampsDocument keys time document) ∧
    (∀ path d document, File.Holds path d document →
      File.StampsDocument keys time path d document) ∧
    ∀ rows : Database.Rows, rows.tableKeys.Nodup → Database.StampsRows keys time rows :=
  ⟨fun document => ⟨Memory.stamps_answer keys time document, Memory.history_answer rfl⟩,
    fun _ _ _ h => ⟨File.exists_stamps_answer h, File.stamps_answer h htime⟩,
    fun _ hrows => Database.stampsRows hrows hlength⟩

end Repository

/-! ### A time with a nanosecond -/

namespace Metadata.Precise

open Repository

/-- One nanosecond after a full second. -/
def now : Instant :=
  ⟨1700000000, 1⟩

def document : MetadataDocument :=
  ⟨metadata, []⟩

/-- A disk with the document in a file. -/
def disk : Disk :=
  (Disk.empty []).insert ["m"] (.file document.toText.toUTF8)

theorem document_isTimely : document.IsTimely := by
  refine ⟨fun k r hr => ?_, fun _ hr => absurd hr List.not_mem_nil⟩
  change metadata.tables[k]? = some r at hr
  rw [metadata, Filed.getElem?_insert] at hr
  split at hr
  · cases hr
    refine ⟨fun t ht => ?_, by decide⟩
    cases ht
  · simp at hr

theorem holds_disk : File.Holds ⟨"m"⟩ disk document :=
  .written (Disk.readFile_iff.2
    ⟨["m"], File.names_m rfl, (Disk.entryAt_insert (by decide)).trans (if_pos rfl)⟩)
    (MetadataDocument.ofText_of_isTimely document_isTimely)

theorem writable_disk : File.Writable ⟨"m"⟩ disk := by
  have hunused : disk.Unused File.oneTemporary :=
    fun x hx => Disk.eq_none_of_probe (by decide) hx
  have hfile : disk.entry? ["m"] = some (.file document.toText.toUTF8) :=
    (Disk.entryAt_insert (by decide)).trans (if_pos rfl)
  exact fun document' => ⟨_, File.runs_writeDocument_m_ok rfl hunused (by simp [hfile])⟩

/-- The rows that are sent for the table and the index. -/
def rows : Database.Rows :=
  .ofMetadata metadata

theorem tableKeys_rows : rows.tableKeys = ["dbo.T"] := by
  decide

theorem stamped_alike :
    ["dbo.T", "dbo.U", "dbo.T"].length < 2 ^ 64 ∧ now.IsSupported ∧
    File.Holds ⟨"m"⟩ disk document ∧ File.Writable ⟨"m"⟩ disk ∧ rows.tableKeys.Nodup ∧
    Memory.StampsDocument ["dbo.T", "dbo.U", "dbo.T"] now document ∧
    File.StampsDocument ["dbo.T", "dbo.U", "dbo.T"] now ⟨"m"⟩ disk document ∧
    Database.StampsRows ["dbo.T", "dbo.U", "dbo.T"] now rows := by
  have hlength : ["dbo.T", "dbo.U", "dbo.T"].length < 2 ^ 64 := by decide
  have htime : now.IsSupported := by decide
  have hrows : rows.tableKeys.Nodup := by simp [tableKeys_rows]
  obtain ⟨hmemory, hfile, hdatabase⟩ := repositories_stamp_alike hlength htime
  exact ⟨hlength, htime, holds_disk, writable_disk, hrows, hmemory document,
    hfile _ _ _ holds_disk, hdatabase rows hrows⟩

/-- The database keeps the full second only. -/
theorem stamp_is_cut : rows.tableKeys.Nodup ∧
    ∃ store, (Database.markGenerated ["dbo.T"] now).Runs Database.Store.answer (.idle rows) (.ok ())
        store ∧
      ¬ Stamps ["dbo.T"] now rows.metadata (.ok ()) store.rows.metadata := by
  have hrows : rows.tableKeys.Nodup := by simp [tableKeys_rows]
  have hmem : "dbo.T" ∈ rows.metadata.tables :=
    (Database.mem_tables_metadata hrows).2 (by simp [tableKeys_rows])
  obtain ⟨r, hr⟩ := Option.isSome_iff_exists.1 (Std.ExtTreeMap.mem_iff_isSome_getElem?.1 hmem)
  refine ⟨hrows, ⟨rows.stamp now.toMicroseconds (Database.distinctKeys ["dbo.T"]), none,
    Database.stampingAsks now ["dbo.T"] .commit⟩, ?_, fun hstamps => ?_⟩
  · rw [Database.runs_markGenerated_iff hrows (by decide), if_pos (by simp [tableKeys_rows])]
    exact ⟨rfl, rfl⟩
  · have hexact := hstamps.getElem? List.mem_cons_self hr
    rw [Database.metadata_stamp, Database.stampAll_distinctKeys,
      getElem?_stampAll_of_mem List.mem_cons_self hr] at hexact
    have hsame : now.toMicroseconds = now :=
      Option.some.inj (congrArg TableRecord.lastGenerated (Option.some.inj hexact))
    exact absurd hsame (by decide)

end Metadata.Precise

end SchemaCodegen
