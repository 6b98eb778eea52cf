import SchemaCodegen.Proofs.Text.Replacing
import SchemaCodegen.Settings.ArtifactSpec

/-!
# Filling in path patterns

A pattern is read once from left to right: places for the schema and for the table, and characters
that stand for themselves (`ArtifactSpec.Reads`). Filling the places of that reading puts both names
in at once (`ArtifactSpec.filled`), so that nothing that a name brings in is looked at again. The
path of an artifact is made in two rounds instead, and the second one goes over what the first one
left. It is the filled pattern exactly where the schema's name made no further place for the table
(`ArtifactSpec.outputPath_eq_filled_iff`).
-/

namespace SchemaCodegen.ArtifactSpec

open Text

/-! ## Reading a pattern -/

/-- What stands in a pattern. -/
inductive Piece where
  | schema
  | table
  | char (c : Char)
deriving DecidableEq, Repr

/-- The pieces of a pattern from left to right, the first `skip` characters being part of a place
that was already taken. -/
def piecesFrom : Nat → List Char → List Piece
  | _, [] => []
  | skip + 1, _ :: cs => piecesFrom skip cs
  | 0, c :: cs =>
    if startsWith schemaPlace.toList (c :: cs) then
      .schema :: piecesFrom (schemaPlace.length - 1) cs
    else if startsWith tablePlace.toList (c :: cs) then
      .table :: piecesFrom (tablePlace.length - 1) cs
    else .char c :: piecesFrom 0 cs

def pieces (pattern : String) : List Piece :=
  piecesFrom 0 pattern.toList

/-- A text is made up of these pieces: wherever a place stands it is taken as one, and all else
stands for itself. -/
inductive Reads : List Char → List Piece → Prop where
  | nil : Reads [] []
  | schema {cs : List Char} {l : List Piece} :
      Reads cs l → Reads (schemaPlace.toList ++ cs) (.schema :: l)
  | table {cs : List Char} {l : List Piece} :
      Reads cs l → Reads (tablePlace.toList ++ cs) (.table :: l)
  | char {c : Char} {cs : List Char} {l : List Piece}
      (hschema : startsWith schemaPlace.toList (c :: cs) = false)
      (htable : startsWith tablePlace.toList (c :: cs) = false) :
      Reads cs l → Reads (c :: cs) (.char c :: l)

variable {cs : List Char} {l : List Piece}

theorem piecesFrom_schema (cs : List Char) :
    piecesFrom 0 (schemaPlace.toList ++ cs) = .schema :: piecesFrom 0 cs := rfl

theorem piecesFrom_table (cs : List Char) :
    piecesFrom 0 (tablePlace.toList ++ cs) = .table :: piecesFrom 0 cs := rfl

theorem reads_piecesFrom (cs : List Char) : Reads cs (piecesFrom 0 cs) := by
  induction hlength : cs.length using Nat.strong_induction_on generalizing cs with
  | _ length ih =>
    cases cs with
    | nil => exact .nil
    | cons c cs =>
      cases hschema : startsWith schemaPlace.toList (c :: cs) with
      | true =>
        obtain ⟨rest, hrest⟩ := List.isPrefixOf_iff_prefix.1 hschema
        rw [← hrest, piecesFrom_schema]
        refine .schema (ih _ ?_ _ rfl)
        rw [← hlength, ← hrest, List.length_append]
        exact Nat.lt_add_of_pos_left (by decide)
      | false =>
        cases htable : startsWith tablePlace.toList (c :: cs) with
        | true =>
          obtain ⟨rest, hrest⟩ := List.isPrefixOf_iff_prefix.1 htable
          rw [← hrest, piecesFrom_table]
          refine .table (ih _ ?_ _ rfl)
          rw [← hlength, ← hrest, List.length_append]
          exact Nat.lt_add_of_pos_left (by decide)
        | false =>
          rw [piecesFrom, if_neg (by simp [hschema]), if_neg (by simp [htable])]
          exact .char hschema htable (ih _ (by rw [← hlength]; exact Nat.lt_succ_self _) _ rfl)

/-- A text is made up of pieces in one way. -/
theorem reads_iff : Reads cs l ↔ l = piecesFrom 0 cs := by
  constructor
  · intro h
    induction h with
    | nil => rfl
    | schema _ ih => rw [piecesFrom_schema, ih]
    | table _ ih => rw [piecesFrom_table, ih]
    | char hschema htable _ ih =>
      rw [piecesFrom, if_neg (by simp [hschema]), if_neg (by simp [htable]), ih]
  · rintro rfl
    exact reads_piecesFrom cs

/-! ## Filling both places at once -/

/-- A piece with the names put in. -/
def Piece.fill (schema table : List Char) : Piece → List Char
  | .schema => schema
  | .table => table
  | .char c => [c]

/-- The pattern with both names put in at once. -/
def filled (pattern schema table : String) : Path :=
  ⟨String.ofList ((pieces pattern).flatMap (Piece.fill schema.toList table.toList))⟩

/-! ## Filling one place after the other -/

/-- A piece when the schema's name is put in: the place for the table is still marked. -/
def Piece.mark (schema : List Char) : Piece → List (Option Char)
  | .schema => schema.map some
  | .table => [none]
  | .char c => [some c]

theorem spell_flatMap_mark (image schema : List Char) (l : List Piece) :
    spell image (l.flatMap (Piece.mark schema)) = l.flatMap (Piece.fill schema image) := by
  induction l with
  | nil => rfl
  | cons piece l ih =>
    rw [List.flatMap_cons, List.flatMap_cons, spell_append, ih]
    cases piece with
    | schema => rw [Piece.mark, spell_map_some, Piece.fill]
    | table => simp [Piece.mark, Piece.fill]
    | char c => rfl

theorem count_none_flatMap_mark (schema : List Char) (l : List Piece) :
    (l.flatMap (Piece.mark schema)).count none = l.count .table := by
  induction l with
  | nil => rfl
  | cons piece l ih =>
    rw [List.flatMap_cons, List.count_append, ih]
    cases piece with
    | schema =>
      have hnone : none ∉ schema.map some := by simp
      rw [Piece.mark, List.count_eq_zero_of_not_mem hnone, List.count_cons_of_ne (by decide),
        Nat.zero_add]
    | table => rw [Piece.mark, List.count_singleton_self, List.count_cons_self, Nat.add_comm]
    | char c => simp [Piece.mark]

/-- The first round fills the places for the schema. -/
theorem Reads.replaceFrom_schemaPlace (h : Reads cs l) (schema : List Char) :
    replaceFrom schemaPlace.toList schema 0 cs =
      spell tablePlace.toList (l.flatMap (Piece.mark schema)) := by
  induction h with
  | nil => rfl
  | schema _ ih =>
    rw [replaceFrom_append (by decide), ih, List.flatMap_cons, spell_append, Piece.mark,
      spell_map_some]
  | table _ ih =>
    rw [List.flatMap_cons, spell_append, ← ih]
    rfl
  | char hschema _ _ ih => rw [replaceFrom_cons (by decide) hschema, ih, List.flatMap_cons]; rfl

/-- The places for the table are counted as they are read. -/
theorem Reads.countFrom_tablePlace (h : Reads cs l) :
    countFrom tablePlace.toList 0 cs = l.count .table := by
  induction h with
  | nil => rfl
  | schema _ ih =>
    rw [List.count_cons_of_ne (by decide), ← ih]
    rfl
  | table _ ih => rw [countFrom_append (by decide), ih, List.count_cons_self]
  | char _ htable _ ih => rw [countFrom_cons htable, ih, List.count_cons_of_ne (by simp)]

theorem outputPath_eq (spec : ArtifactSpec) (schema table : String) :
    spec.outputPath schema table = ⟨String.ofList (replaceFrom tablePlace.toList table.toList 0
      (spell tablePlace.toList
        ((pieces spec.pathPattern).flatMap (Piece.mark schema.toList))))⟩ := by
  have hschema := (reads_piecesFrom spec.pathPattern.toList).replaceFrom_schemaPlace schema.toList
  rw [outputPath, replace, replace, String.toList_ofList, hschema]
  rfl

/-- The second round is about the first character of a place only. -/
theorem tablePlace_eq : tablePlace.toList = '\x7b' :: "table\x7d".toList := rfl

/-- A pattern is filled at once where neither the schema's name nor the text around the places has
an opening brace. -/
theorem outputPath_eq_filled {spec : ArtifactSpec} {schema : String}
    (hschema : '\x7b' ∉ schema.toList) (hpattern : .char '\x7b' ∉ pieces spec.pathPattern)
    (table : String) :
    spec.outputPath schema table = filled spec.pathPattern schema table := by
  have hmarked : some '\x7b' ∉ (pieces spec.pathPattern).flatMap (Piece.mark schema.toList) := by
    intro h
    obtain ⟨piece, hpiece, hmem⟩ := List.mem_flatMap.1 h
    cases piece with
    | schema => exact hschema (by simpa [Piece.mark] using hmem)
    | table => simp [Piece.mark] at hmem
    | char c =>
      obtain rfl : '\x7b' = c := by simpa [Piece.mark] using hmem
      exact hpattern hpiece
  have hbrace : '\x7b' ∉ "table\x7d".toList := by decide
  have hcount := countFrom_spell_eq hbrace hmarked
  rw [outputPath_eq, filled, tablePlace_eq, (replaceFrom_spell_eq_iff hbrace).2 (.inl hcount),
    spell_flatMap_mark]

/-- The path of an artifact is the pattern with both names put in at once exactly if putting in the
schema's name made no further place for the table, be it that the name brought one in or that it
completed one; or if the table is named like its place, so that filling it changes nothing. -/
theorem outputPath_eq_filled_iff (spec : ArtifactSpec) (schema table : String) :
    spec.outputPath schema table = filled spec.pathPattern schema table ↔
      count (replace spec.pathPattern schemaPlace schema) tablePlace =
        count spec.pathPattern tablePlace ∨ table = tablePlace := by
  have hreads := reads_piecesFrom spec.pathPattern.toList
  have hbrace : '\x7b' ∉ "table\x7d".toList := by decide
  have hcount : count (replace spec.pathPattern schemaPlace schema) tablePlace =
      countFrom tablePlace.toList 0 (spell tablePlace.toList
        ((pieces spec.pathPattern).flatMap (Piece.mark schema.toList))) := by
    rw [count, replace, String.toList_ofList, hreads.replaceFrom_schemaPlace]
    rfl
  have hplaces : count spec.pathPattern tablePlace =
      ((pieces spec.pathPattern).flatMap (Piece.mark schema.toList)).count none := by
    rw [count, hreads.countFrom_tablePlace, count_none_flatMap_mark]
    rfl
  have htable : table = tablePlace ↔ table.toList = tablePlace.toList :=
    String.toList_inj.symm
  rw [outputPath_eq, filled, Path.mk.injEq, String.ofList_inj, hcount, hplaces, htable,
    ← spell_flatMap_mark]
  exact replaceFrom_spell_eq_iff hbrace

/-- A schema that is named like the place for the table is renamed to the table. -/
theorem exists_outputPath_ne_filled : ¬ ∀ (spec : ArtifactSpec) (schema table : String),
    spec.outputPath schema table = filled spec.pathPattern schema table := by
  intro h
  exact absurd (h ⟨"t", "\x7bschema\x7d/\x7btable\x7d.cs"⟩ "\x7btable\x7d" "T") (by decide)

/-- A name that has no braces completes a place with a brace of the pattern. -/
example : (⟨"t", "\x7b\x7bschema\x7d\x7d"⟩ : ArtifactSpec).outputPath "table" "T" = ⟨"T"⟩ ∧
    filled "\x7b\x7bschema\x7d\x7d" "table" "T" = ⟨"\x7btable\x7d"⟩ := by decide

end SchemaCodegen.ArtifactSpec
