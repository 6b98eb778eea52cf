import Mathlib.Data.List.Infix
import SchemaCodegen.Text.Search

/-!
# Places in a text

A piece stands at a place of a text (`OccursAt`) also where it overlaps itself; the searches take
the first place and go on behind the piece. So what `cutChars` finds is the first place of all
(`of_cutChars_eq_some`), but `countFrom` counts one place where there are several that overlap the
first of them (`countFrom_eq_one_iff`), and more only if two of them do not overlap
(`two_le_countFrom_iff`).
-/

namespace SchemaCodegen.Text

/-- The piece stands `n` characters into the text. -/
def OccursAt (piece cs : List Char) (n : Nat) : Prop :=
  piece <+: cs.drop n

instance (piece cs : List Char) (n : Nat) : Decidable (OccursAt piece cs n) :=
  inferInstanceAs (Decidable (piece <+: cs.drop n))

section Places

variable {piece cs before after : List Char} {c : Char} {n : Nat}

theorem startsWith_iff : startsWith piece cs = true ↔ OccursAt piece cs 0 :=
  List.isPrefixOf_iff_prefix

theorem not_occursAt_nil (hpiece : piece ≠ []) : ¬ OccursAt piece [] n := by
  rw [OccursAt, List.drop_nil, List.prefix_nil]
  exact hpiece

theorem occursAt_append (before cs : List Char) (n : Nat) :
    OccursAt piece (before ++ cs) (before.length + n) ↔ OccursAt piece cs n := by
  rw [OccursAt, ← List.drop_drop, List.drop_left]
  rfl

theorem containsChars_iff : containsChars piece cs = true ↔ piece <:+: cs := by
  induction cs with
  | nil => simp [containsChars]
  | cons c cs ih =>
    rw [containsChars, Bool.or_eq_true, ih, List.infix_cons_iff, startsWith_iff]
    rfl

end Places

/-! ## The first place -/

section FirstPlace

variable {piece cs before after : List Char}

theorem cutChars_eq_none_iff (hpiece : piece ≠ []) :
    cutChars piece cs = none ↔ ∀ n, ¬ OccursAt piece cs n := by
  induction cs with
  | nil => simp [cutChars, not_occursAt_nil hpiece]
  | cons c cs ih =>
    rw [cutChars]
    by_cases hhere : startsWith piece (c :: cs) = true
    · rw [if_pos hhere]
      simp only [reduceCtorEq, false_iff, not_forall, not_not]
      exact ⟨0, startsWith_iff.1 hhere⟩
    · rw [if_neg hhere, Option.map_eq_none_iff, ih]
      constructor
      · intro h n
        cases n with
        | zero => exact fun h₀ => hhere (startsWith_iff.2 h₀)
        | succ n => exact h n
      · exact fun h n => h (n + 1)

/-- The text is cut around the first place of the piece. -/
theorem of_cutChars_eq_some (h : cutChars piece cs = some (before, after)) :
    cs = before ++ piece ++ after ∧ ∀ n < before.length, ¬ OccursAt piece cs n := by
  induction cs generalizing before with
  | nil => cases h
  | cons c cs ih =>
    rw [cutChars] at h
    by_cases hhere : startsWith piece (c :: cs) = true
    · rw [if_pos hhere] at h
      cases h
      obtain ⟨rest, hrest⟩ := List.isPrefixOf_iff_prefix.1 hhere
      refine ⟨?_, fun n hn => absurd hn (Nat.not_lt_zero n)⟩
      rw [← hrest, List.drop_left, List.nil_append]
    · rw [if_neg hhere] at h
      obtain ⟨⟨before', after'⟩, hcut, heq⟩ := Option.map_eq_some_iff.1 h
      cases heq
      obtain ⟨hsplit, hfirst⟩ := ih hcut
      refine ⟨congrArg (c :: ·) hsplit, fun n hn => ?_⟩
      cases n with
      | zero => exact fun h₀ => hhere (startsWith_iff.2 h₀)
      | succ n => exact hfirst n (Nat.lt_of_succ_lt_succ hn)

theorem occursAt_of_cutChars (h : cutChars piece cs = some (before, after)) :
    OccursAt piece cs before.length := by
  rw [(of_cutChars_eq_some h).1, List.append_assoc]
  exact (occursAt_append before (piece ++ after) 0).2 (List.prefix_append piece after)

/-- Behind the first place, the piece stands where it overlaps it or where it stands in the rest. -/
theorem occursAt_after (h : cutChars piece cs = some (before, after)) (n : Nat) :
    OccursAt piece cs (before.length + piece.length + n) ↔ OccursAt piece after n := by
  rw [(of_cutChars_eq_some h).1, ← List.length_append]
  exact occursAt_append (before ++ piece) after n

/-- What is replaced stands at the first place. -/
theorem replaceFirst_eq {s piece image : String} {n : Nat} (hpiece : piece.toList ≠ [])
    (hplace : OccursAt piece.toList s.toList n)
    (hfirst : ∀ m, OccursAt piece.toList s.toList m → n ≤ m) :
    replaceFirst s piece image = String.ofList
      (s.toList.take n ++ image.toList ++ s.toList.drop (n + piece.length)) := by
  unfold replaceFirst
  cases hcut : cutChars piece.toList s.toList with
  | none => exact absurd hplace ((cutChars_eq_none_iff hpiece).1 hcut n)
  | some parts =>
    obtain ⟨before, after⟩ := parts
    have hlength : before.length = n :=
      Nat.le_antisymm (Nat.le_of_not_lt fun hlt => (of_cutChars_eq_some hcut).2 n hlt hplace)
        (hfirst _ (occursAt_of_cutChars hcut))
    subst hlength
    have hsplit : s.toList = before ++ (piece.toList ++ after) := by
      rw [(of_cutChars_eq_some hcut).1, List.append_assoc]
    dsimp only
    rw [← List.drop_drop, hsplit, List.take_left, List.drop_left, ← String.length_toList,
      List.drop_left]

end FirstPlace

/-! ## Counting -/

section Counting

variable {piece cs before after : List Char}

theorem countFrom_drop (skip : Nat) :
    countFrom piece skip cs = countFrom piece 0 (cs.drop skip) := by
  induction skip generalizing cs with
  | zero => rfl
  | succ skip ih =>
    cases cs with
    | nil => rfl
    | cons c cs => exact ih

/-- The count goes on behind the first place. -/
theorem countFrom_eq (hpiece : piece ≠ []) : countFrom piece 0 cs =
    match cutChars piece cs with
    | none => 0
    | some (_, after) => countFrom piece 0 after + 1 := by
  induction cs with
  | nil => simp [countFrom, cutChars, hpiece]
  | cons c cs ih =>
    rw [countFrom, cutChars]
    by_cases hhere : startsWith piece (c :: cs) = true
    · obtain ⟨n, hlength⟩ := Nat.exists_eq_succ_of_ne_zero (mt List.length_eq_zero_iff.1 hpiece)
      rw [if_pos hhere, if_pos hhere, countFrom_drop, hlength]
      rfl
    · rw [if_neg hhere, if_neg hhere, ih]
      cases cutChars piece cs <;> rfl

theorem countFrom_eq_zero_iff (hpiece : piece ≠ []) :
    countFrom piece 0 cs = 0 ↔ ∀ n, ¬ OccursAt piece cs n := by
  rw [countFrom_eq hpiece, ← cutChars_eq_none_iff hpiece]
  cases cutChars piece cs <;> simp

/-- More than one place is counted if two of them do not overlap. -/
theorem two_le_countFrom_iff (hpiece : piece ≠ []) : 2 ≤ countFrom piece 0 cs ↔
    ∃ m n, OccursAt piece cs m ∧ OccursAt piece cs n ∧ m + piece.length ≤ n := by
  rw [countFrom_eq hpiece]
  cases hcut : cutChars piece cs with
  | none =>
    have hnone := (cutChars_eq_none_iff hpiece).1 hcut
    simp [hnone]
  | some parts =>
    obtain ⟨before, after⟩ := parts
    have hrest : 2 ≤ countFrom piece 0 after + 1 ↔ ∃ n, OccursAt piece after n := by
      rw [Nat.succ_le_succ_iff, Nat.one_le_iff_ne_zero, Ne, countFrom_eq_zero_iff hpiece]
      simp
    rw [hrest]
    constructor
    · rintro ⟨n, hn⟩
      exact ⟨before.length, _, occursAt_of_cutChars hcut, (occursAt_after hcut n).2 hn,
        Nat.le_add_right _ _⟩
    · rintro ⟨m, n, hm, hn, hapart⟩
      -- The first place is not behind `m`, so `n` is not in front of the rest.
      have hfirst : before.length ≤ m :=
        Nat.le_of_not_lt fun hlt => (of_cutChars_eq_some hcut).2 m hlt hm
      obtain ⟨k, rfl⟩ := Nat.exists_eq_add_of_le
        ((Nat.add_le_add_right hfirst piece.length).trans hapart)
      exact ⟨k, (occursAt_after hcut k).1 hn⟩

/-- One place is counted if all places overlap the first. -/
theorem countFrom_eq_one_iff (hpiece : piece ≠ []) : countFrom piece 0 cs = 1 ↔
    ∃ n, OccursAt piece cs n ∧ ∀ m, OccursAt piece cs m → n ≤ m ∧ m < n + piece.length := by
  have hzero : countFrom piece 0 cs = 0 ↔ ∀ n, ¬ OccursAt piece cs n := countFrom_eq_zero_iff hpiece
  have htwo : 2 ≤ countFrom piece 0 cs ↔
      ∃ m n, OccursAt piece cs m ∧ OccursAt piece cs n ∧ m + piece.length ≤ n :=
    two_le_countFrom_iff hpiece
  constructor
  · intro hone
    cases hcut : cutChars piece cs with
    | none =>
      have hcount := hzero.2 ((cutChars_eq_none_iff hpiece).1 hcut)
      omega
    | some parts =>
      obtain ⟨before, after⟩ := parts
      have hplace := occursAt_of_cutChars hcut
      refine ⟨before.length, hplace, fun m hm => ⟨?_, ?_⟩⟩
      · exact Nat.le_of_not_lt fun hlt => (of_cutChars_eq_some hcut).2 m hlt hm
      · by_contra hapart
        have hcount := htwo.2 ⟨_, m, hplace, hm, Nat.le_of_not_lt hapart⟩
        omega
  · rintro ⟨n, hn, hoverlap⟩
    have hsome : countFrom piece 0 cs ≠ 0 := fun h => hzero.1 h n hn
    have hnot : ¬ 2 ≤ countFrom piece 0 cs := by
      intro h
      obtain ⟨m, k, hm, hk, hapart⟩ := htwo.1 h
      have hfirst := (hoverlap m hm).1
      have hlast := (hoverlap k hk).2
      omega
    omega

end Counting

end SchemaCodegen.Text
