import SchemaCodegen.Proofs.Disk.Resolution
import SchemaCodegen.Proofs.Generation.Listing
import SchemaCodegen.Proofs.Text.Replacing

/-!
# Where runs write

A run asks for nothing to be written but the artifacts of the tables of its snapshot, each at its
filled-in pattern joined to the output root. Such a path lies under the root if the pattern does and
the names of schema and table are plain (`run_writes_under_root`). Names come from databases and
files, and nothing makes sure that they are (`written_beside_root`).
-/

namespace SchemaCodegen

/-! ## Filled-in patterns -/

namespace Path

/-- A text that names a file or a directory, and nothing else. -/
structure IsPlainName (s : String) : Prop where
  segment : IsSegment s
  filled : s ≠ ""
  not_here : s ≠ "."
  not_up : s ≠ ".."

/-- A relative path without steps up. -/
structure IsInner (p : Path) : Prop where
  relative : p.isAbsolute = false
  no_up : ∀ s ∈ p.segments, s ≠ ".."

theorem IsInner.staysInside {p : Path} (h : p.IsInner) : p.StaysInside :=
  staysInside_of_steps h.relative fun s hs => h.no_up s (List.mem_of_mem_filter hs)

theorem IsPlainName.not_infix_up {s : String} (h : IsPlainName s) :
    ¬ s.toList <:+: "..".toList := by
  intro hinfix
  have hcases : s.toList = "".toList ∨ s.toList = ".".toList ∨ s.toList = "..".toList := by
    have hinfix' : s.toList <:+: ['.', '.'] := hinfix
    simp only [List.infix_cons_iff, List.prefix_cons_iff, List.prefix_nil,
      List.infix_nil] at hinfix'
    rcases hinfix' with (h | ⟨t, ht, rfl | ⟨u, rfl, rfl⟩⟩) | (h | ⟨t, ht, rfl⟩) | h
    · exact .inl h
    · exact .inr (.inl ht)
    · exact .inr (.inr ht)
    · exact .inl h
    · exact .inr (.inl ht)
    · exact .inl h
  rcases hcases with hs | hs | hs
  · exact h.filled (String.toList_injective hs)
  · exact h.not_here (String.toList_injective hs)
  · exact h.not_up (String.toList_injective hs)

section Replace

variable {pattern piece image : String}

theorem ne_slash_of_isSegment {s : String} (h : IsSegment s) :
    ∀ c ∈ s.toList, (c == '/') = false := by
  intro c hc
  refine beq_false_of_ne ?_
  rintro rfl
  exact h hc

/-- Where neither the piece nor its image has a slash, segments stay segments. -/
theorem segments_replace (hfilled : piece ≠ "") (hpiece : IsSegment piece)
    (himage : IsSegment image) : (⟨Text.replace pattern piece image⟩ : Path).segments =
      (⟨pattern⟩ : Path).segments.map fun s => Text.replace s piece image := by
  have hne : piece.toList ≠ [] := by simpa using hfilled
  rw [segments, segments, Text.splitOnChar, Text.splitOnChar, Text.replace, String.toList_ofList]
  cases hparts : Text.splitWhere (· == '/') pattern.toList with
  | nil => exact absurd hparts (Text.splitWhere_ne_nil _ _)
  | cons part parts =>
    rw [Text.splitWhere_replaceFrom hne (ne_slash_of_isSegment hpiece)
      (ne_slash_of_isSegment himage) (by simp) hparts]
    simp [Text.replace]

theorem IsInner.replace (h : (⟨pattern⟩ : Path).IsInner) (hfilled : piece ≠ "")
    (hpiece : IsSegment piece) (himage : IsPlainName image) :
    (⟨Text.replace pattern piece image⟩ : Path).IsInner := by
  have hne : piece.toList ≠ [] := by simpa using hfilled
  have hempty : ¬ piece.toList.isEmpty = true := by simpa using hne
  constructor
  · have hrelative : pattern.toList.head? ≠ some '/' := by simpa [isAbsolute] using h.relative
    unfold isAbsolute
    rw [Text.replace, String.toList_ofList]
    cases hchars : pattern.toList with
    | nil => simp [Text.replaceFrom, hne]
    | cons c cs =>
      rw [Text.replaceFrom, if_neg hempty]
      split
      · obtain ⟨d, ds, hds⟩ : ∃ d ds, image.toList = d :: ds := by
          cases hds : image.toList with
          | nil => exact absurd (by simpa using hds) himage.filled
          | cons d ds => exact ⟨d, ds, rfl⟩
        have hslash : d ≠ '/' := by
          rintro rfl
          exact himage.segment (by simp [hds])
        simp [hds, hslash]
      · rw [hchars] at hrelative
        simpa using hrelative
  · intro s hs
    rw [segments_replace hfilled hpiece himage.segment] at hs
    obtain ⟨before, hbefore, rfl⟩ := List.mem_map.1 hs
    intro hup
    have hchars : Text.replaceFrom piece.toList image.toList 0 before.toList = "..".toList := by
      rw [← hup, Text.replace, String.toList_ofList]
    rcases Text.replaceFrom_eq_or_infix hne 0 with hsame | hinfix
    · rw [hchars] at hsame
      exact h.no_up before hbefore (String.toList_injective hsame.symm)
    · rw [hchars] at hinfix
      exact himage.not_infix_up hinfix

end Replace

theorem IsInner.outputPath {spec : ArtifactSpec} {schema table : String}
    (h : (⟨spec.pathPattern⟩ : Path).IsInner) (hschema : IsPlainName schema)
    (htable : IsPlainName table) : (spec.outputPath schema table).IsInner :=
  (h.replace (by decide) (by decide) hschema).replace (by decide) (by decide) htable

end Path

/-! ## What runs ask to be written -/

namespace Generator

/-- If the call is to write, it is to an allowed path. -/
def WritesOnly (allowed : Path → Prop) (call : generation.Call) : Prop :=
  ∀ path content, call = .inr (.write path content) → allowed path

section Runs

variable {allowed : Path → Prop} {g : Generator} {snapshot : Snapshot}

theorem asks_bookkeeping {α : Type} (books : Bookkeeping α) :
    (ofBookkeeping books).Asks (WritesOnly allowed) :=
  .left (Script.Asks.of_forall (fun _ _ _ h => nomatch h) _)

theorem outputPath_build (t : Table) (artifact : ArtifactSpec) :
    g.outputPath (.build g.rules snapshot t) artifact =
      g.outputRoot.join (artifact.outputPath t.schemaName t.name).text := rfl

-- How a path is put together does not matter from here on, and unfolding it takes long.
attribute [local irreducible] outputPath

/-- A run asks for the artifacts of the tables of its snapshot to be written. -/
theorem asks_run (h : ∀ t ∈ snapshot.tables, ∀ artifact ∈ g.artifacts,
    allowed (g.outputRoot.join (artifact.outputPath t.schemaName t.name).text)) :
    (g.run snapshot).Asks (WritesOnly allowed) := by
  unfold run
  refine .bind (asks_bookkeeping _) fun startedAt => .bind (asks_bookkeeping _) fun prepared => ?_
  refine .bind (.ofScript ?_) fun runs => .bind (asks_bookkeeping _) fun _ =>
    .bind (asks_bookkeeping _) fun _ => .bind (asks_bookkeeping _) fun completedAt => .pure _
  refine asks_generateTables (fun _ _ _ h => nomatch h) (fun _ _ _ _ h => nomatch h) ?_ _
  intro t ht artifact hartifact content path content' heq
  obtain ⟨rfl, rfl⟩ := Production.Call.write.inj (Sum.inr.inj heq)
  rw [outputPath_build]
  exact h t ht artifact hartifact

/-- Whatever a run is answered, it asks for nothing to be written but the artifacts of its tables.
Each of them lies under every root that it is joined to exactly if its filled-in pattern stays
inside, and all of them lie under the output root where the patterns have no steps up and the
names of schemas and tables are plain. -/
theorem run_writes_under_root (g : Generator) (snapshot : Snapshot) :
    (g.run snapshot).Asks (WritesOnly fun path => ∃ t ∈ snapshot.tables,
        ∃ artifact ∈ g.artifacts,
          path = g.outputRoot.join (artifact.outputPath t.schemaName t.name).text) ∧
      (∀ (artifact : ArtifactSpec) (schema table : String),
        (∀ root : Path, (root.join (artifact.outputPath schema table).text).LiesUnder root) ↔
          (artifact.outputPath schema table).StaysInside) ∧
      ((∀ artifact ∈ g.artifacts, (⟨artifact.pathPattern⟩ : Path).IsInner) →
        (∀ t ∈ snapshot.tables, Path.IsPlainName t.schemaName ∧ Path.IsPlainName t.name) →
        (g.run snapshot).Asks (WritesOnly fun path => path.LiesUnder g.outputRoot)) := by
  refine ⟨asks_run fun t ht artifact hartifact => ⟨t, ht, artifact, hartifact, rfl⟩,
    fun artifact schema table => Path.forall_liesUnder_join_iff, fun hpatterns hnames => ?_⟩
  refine asks_run fun t ht artifact hartifact => ?_
  obtain ⟨hschema, htable⟩ := hnames t ht
  have hinner := (hpatterns artifact hartifact).outputPath hschema htable
  exact Path.forall_liesUnder_join_iff.2 hinner.staysInside g.outputRoot

end Runs

end Generator

/-! ### A table whose name leads out of the output root -/

namespace BesideRoot

open Generator MissedChange

/-- Writes one file for each table, with the name of the table. -/
def onePerTable : Generator :=
  { oneArtifact with artifacts := [⟨"m", ArtifactSpec.tablePlace ++ ".txt"⟩] }

/-- A snapshot with one table of a given name. -/
def named (name : String) : Snapshot :=
  snapshotOf { keyed "id" with name := name }

theorem isPlainName_item : Path.IsPlainName "dbo" ∧ Path.IsPlainName "Item" := by
  constructor <;> constructor <;> decide

theorem isInner_onePerTable :
    ∀ artifact ∈ onePerTable.artifacts, (⟨artifact.pathPattern⟩ : Path).IsInner := by
  intro artifact hartifact
  rw [List.mem_singleton.1 hartifact]
  constructor <;> decide

theorem run_writes_under_root_item :
    (onePerTable.run (named "Item")).Asks (WritesOnly fun path => path.LiesUnder ⟨"out"⟩) := by
  refine (run_writes_under_root onePerTable (named "Item")).2.2 isInner_onePerTable ?_
  intro t ht
  rw [List.mem_singleton.1 ht]
  exact isPlainName_item

def outcome : Outcome RunReport × Workplace :=
  furnished.run onePerTable (named "../x")

theorem not_liesUnder_out : ¬ (⟨"out/../x.txt"⟩ : Path).LiesUnder ⟨"out"⟩ := by
  rintro ⟨names, hnames⟩
  have hpath : (⟨"out/../x.txt"⟩ : Path).resolved = [.name "x.txt"] := by decide
  have hroot : (⟨"out"⟩ : Path).resolved = [.name "out"] := by decide
  rw [hpath, hroot] at hnames
  exact absurd (List.cons.inj hnames).1 (by decide)

set_option maxRecDepth 100000 in
theorem outcome_eq : outcome.1.map (fun report => report.filesWritten.map (·.path)) =
      .ok [⟨"out/../x.txt"⟩] ∧
    outcome.2.world.disk.entry? ["x.txt"] = some (.file ⟨#[65]⟩) := by
  decide +kernel

/-- The snapshot is valid and the pattern has no steps up, but the file is beside the root. -/
theorem written_beside_root :
    (named "../x").defect? = none ∧
      (∀ artifact ∈ onePerTable.artifacts, (⟨artifact.pathPattern⟩ : Path).IsInner) ∧
      outcome.1.map (fun report => report.filesWritten.map (·.path)) = .ok [⟨"out/../x.txt"⟩] ∧
      ¬ (⟨"out/../x.txt"⟩ : Path).LiesUnder onePerTable.outputRoot ∧
      outcome.2.world.disk.entry? ["x.txt"] = some (.file ⟨#[65]⟩) :=
  ⟨by decide, isInner_onePerTable, outcome_eq.1, not_liesUnder_out, outcome_eq.2⟩

end BesideRoot

end SchemaCodegen
