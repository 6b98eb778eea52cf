import SchemaCodegen.Proofs.Disk.Paths

/-!
# Resolving paths by their text

Where a path leads when `..` takes back the name in front of it, whatever is on the disk
(`Path.resolved`). A path that never goes above its start lies under every root that it is joined
to, and no other path does (`forall_liesUnder_join_iff`).
-/

namespace SchemaCodegen.Path

/-- What is resolved so far, after one more component: `..` takes a name back, at the root it leads
nowhere, and elsewhere it stays. -/
def Component.resolveAfter (resolved : List Component) : Component → List Component
  | .here => resolved
  | .up =>
    match resolved.getLast? with
    | some (.name _) => resolved.dropLast
    | some .root => resolved
    | _ => resolved ++ [.up]
  | component => resolved ++ [component]

def resolved (p : Path) : List Component :=
  p.components.foldl Component.resolveAfter []

/-- Resolved, the path is the root with names behind it. -/
def LiesUnder (p root : Path) : Prop :=
  ∃ names : List String, p.resolved = root.resolved ++ names.map .name

/-- Resolved, the path is nothing but names. -/
def StaysInside (p : Path) : Prop :=
  ∃ names : List String, p.resolved = names.map .name

/-! ## Steps behind a start -/

/-- Takes steps that name something or lead up. -/
def follow (resolved : List Component) (steps : List String) : List Component :=
  (steps.map Component.ofSegment).foldl Component.resolveAfter resolved

@[simp] theorem Component.resolveAfter_name (start : List Component) (name : String) :
    resolveAfter start (.name name) = start ++ [.name name] := rfl

@[simp] theorem Component.resolveAfter_up_name (start : List Component) (name : String) :
    resolveAfter (start ++ [.name name]) .up = start := by
  simp [resolveAfter]

/-- Only names are taken back. -/
theorem Component.exists_resolveAfter_up {first : Component} (hfirst : ∀ name, first ≠ .name name)
    (start : List Component) : ∃ next, resolveAfter (first :: start) .up = first :: next := by
  rcases List.eq_nil_or_concat start with rfl | ⟨before, last, rfl⟩
  · cases first with
    | name name => exact absurd rfl (hfirst name)
    | root => exact ⟨[], rfl⟩
    | here => exact ⟨[.up], rfl⟩
    | up => exact ⟨[.up], rfl⟩
  · rw [List.concat_eq_append, ← List.cons_append]
    cases last with
    | name name => exact ⟨before, resolveAfter_up_name _ _⟩
    | root =>
      refine ⟨before ++ [.root], ?_⟩
      rw [resolveAfter, List.getLast?_concat]
      rfl
    | here =>
      refine ⟨before ++ [.here] ++ [.up], ?_⟩
      rw [resolveAfter, List.getLast?_concat]
      rfl
    | up =>
      refine ⟨before ++ [.up] ++ [.up], ?_⟩
      rw [resolveAfter, List.getLast?_concat]
      rfl

section Follow

variable {start : List Component} {steps names names' : List String}

theorem resolved_eq (p : Path) :
    p.resolved = follow (if p.isAbsolute then [.root] else []) p.steps := by
  unfold resolved components follow steps
  by_cases habsolute : p.isAbsolute = true
  · simp [habsolute, Component.resolveAfter]
  · by_cases hhere : p.segments.head? == some "."
    · simp [habsolute, hhere, Component.resolveAfter]
    · simp [habsolute, hhere]

theorem follow_append (start : List Component) (steps steps' : List String) :
    follow start (steps ++ steps') = follow (follow start steps) steps' := by
  simp [follow]

@[simp] theorem follow_cons (start : List Component) (step : String) (steps : List String) :
    follow start (step :: steps) =
      follow (Component.resolveAfter start (.ofSegment step)) steps := rfl

/-- A step up that was not taken back stays, and so does the root. -/
theorem head?_follow {first : Component} (hfirst : ∀ name, first ≠ .name name)
    (start : List Component) (steps : List String) :
    (follow (first :: start) steps).head? = some first := by
  induction steps generalizing start with
  | nil => rfl
  | cons step steps ih =>
    have hnext : ∃ next, Component.resolveAfter (first :: start) (.ofSegment step) =
        first :: next := by
      unfold Component.ofSegment
      split
      · exact Component.exists_resolveAfter_up hfirst start
      · exact ⟨start ++ [.name step], rfl⟩
    obtain ⟨next, hnext⟩ := hnext
    rw [follow_cons, hnext]
    exact ih next

/-- Steps that never go above their start lead as far from any other. -/
theorem follow_names (h : follow (names.map .name) steps = names'.map .name)
    (start : List Component) :
    follow (start ++ names.map .name) steps = start ++ names'.map .name := by
  induction steps generalizing names with
  | nil =>
    have hsame : names.map Component.name = names'.map .name := h
    rw [← hsame]
    rfl
  | cons step steps ih =>
    rw [follow_cons, Component.ofSegment] at h ⊢
    by_cases hup : (step == "..") = true
    · rw [if_pos hup] at h ⊢
      rcases List.eq_nil_or_concat names with rfl | ⟨before, last, rfl⟩
      · -- A step up from the start is never taken back.
        have hhead : (follow [.up] steps).head? = some .up := head?_follow (by simp) [] steps
        have hnames : follow [.up] steps = names'.map .name := h
        rw [hnames] at hhead
        cases names' <;> simp at hhead
      · simp only [List.concat_eq_append, List.map_append, List.map_cons, List.map_nil,
          ← List.append_assoc, Component.resolveAfter_up_name] at h ⊢
        exact ih h
    · rw [if_neg hup] at h ⊢
      have hnext : (names ++ [step]).map Component.name = names.map .name ++ [.name step] := by simp
      rw [Component.resolveAfter_name, ← hnext] at h
      rw [Component.resolveAfter_name, List.append_assoc, ← hnext]
      exact ih h

theorem follow_of_names (h : ∀ step ∈ steps, step ≠ "..") (start : List Component) :
    follow start steps = start ++ steps.map .name := by
  induction steps generalizing start with
  | nil => simp [follow]
  | cons step steps ih =>
    have hstep : (step == "..") = false := beq_false_of_ne (h step List.mem_cons_self)
    rw [follow_cons, Component.ofSegment, hstep, ih fun s hs => h s (List.mem_cons_of_mem _ hs)]
    simp

end Follow

/-! ## Joined paths -/

section Join

variable {p root : Path} {q : String}

/-- How a relative path is joined: as it is, or behind a slash that the root has or has not. -/
theorem join_cases (hq : (⟨q⟩ : Path).isAbsolute = false) (root : Path) :
    (root = ⟨""⟩ ∧ root.join q = ⟨q⟩) ∨
      (∃ body, root = ⟨body ++ "/"⟩ ∧ root.join q = ⟨body ++ "/" ++ q⟩) ∨
      (root ≠ ⟨""⟩ ∧ root.join q = ⟨root.text ++ "/" ++ q⟩) := by
  have hrelative : ¬ (q.toList.head? == some '/') = true := by
    have hhead : (q.toList.head? == some '/') = false := hq
    simp [hhead]
  unfold join
  rw [if_neg hrelative]
  by_cases hempty : root.isEmpty = true
  · have htext : root.text = "" := by simpa [isEmpty] using hempty
    refine .inl ⟨?_, ?_⟩
    · rw [← htext]
    · simp [hempty, htext]
  · by_cases hslash : (root.text.toList.getLast? == some '/') = true
    · obtain ⟨body, hbody⟩ := List.getLast?_eq_some_iff.1 (beq_iff_eq.1 hslash)
      have htext : root.text = String.ofList body ++ "/" := by
        apply String.toList_injective
        simp [hbody]
      refine .inr (.inl ⟨String.ofList body, ?_, ?_⟩)
      · rw [← htext]
      · simp [htext]
    · refine .inr (.inr ⟨?_, ?_⟩)
      · rintro rfl
        exact hempty rfl
      · simp [hempty, hslash]

theorem isAbsolute_append {s : String} (h : IsSegment s) (hfilled : s ≠ "") (behind : String) :
    (⟨s ++ behind⟩ : Path).isAbsolute = false := by
  rw [isAbsolute, String.toList_append]
  cases hs : s.toList with
  | nil => exact absurd (String.toList_eq_nil_iff.1 hs) hfilled
  | cons c cs =>
    have hc : c ≠ '/' := by
      rintro rfl
      exact h (hs ▸ List.mem_cons_self)
    simpa using hc

/-- Relative paths are joined behind the same text. -/
theorem exists_join_eq (root : Path) : ∃ front : String, ∀ q : String,
    (⟨q⟩ : Path).isAbsolute = false → root.join q = ⟨front ++ q⟩ := by
  refine ⟨if root.isEmpty || root.text.toList.getLast? == some '/' then root.text
    else root.text ++ "/", fun q hq => ?_⟩
  have hrelative : ¬ (q.toList.head? == some '/') = true := Bool.eq_false_iff.1 hq
  rw [join, if_neg hrelative]
  split <;> rfl

theorem join_inj {q' : String} (hq : (⟨q⟩ : Path).isAbsolute = false)
    (hq' : (⟨q'⟩ : Path).isAbsolute = false) : root.join q = root.join q' ↔ q = q' := by
  obtain ⟨front, hfront⟩ := exists_join_eq root
  rw [hfront q hq, hfront q' hq', Path.mk.injEq]
  refine ⟨fun h => ?_, congrArg _⟩
  apply String.toList_injective
  simpa using congrArg String.toList h

/-- Joining with a name and then with the rest is joining with both. -/
theorem join_join {name rest : String} (hname : IsSegment name) (hfilled : name ≠ "")
    (hrest : (⟨rest⟩ : Path).isAbsolute = false) (root : Path) :
    (root.join name).join rest = root.join (name ++ "/" ++ rest) := by
  obtain ⟨cs, c, hcs⟩ : ∃ cs c, name.toList = cs ++ [c] := by
    rcases List.eq_nil_or_concat name.toList with h | ⟨cs, c, h⟩
    · exact absurd (String.toList_eq_nil_iff.1 h) hfilled
    · exact ⟨cs, c, h.trans List.concat_eq_append⟩
  have hc : c ≠ '/' := by
    rintro rfl
    exact hname (hcs ▸ List.mem_append_right _ List.mem_cons_self)
  obtain ⟨front, hfront⟩ := exists_join_eq root
  have hjoin : root.join name = ⟨front ++ name⟩ := by
    refine hfront name ?_
    rw [← String.append_empty (s := name)]
    exact isAbsolute_append hname hfilled ""
  have hboth : root.join (name ++ "/" ++ rest) = ⟨front ++ (name ++ "/" ++ rest)⟩ := by
    refine hfront _ ?_
    rw [String.append_assoc]
    exact isAbsolute_append hname hfilled ("/" ++ rest)
  have hslash : ¬ (rest.toList.head? == some '/') = true := Bool.eq_false_iff.1 hrest
  have hlast : (front ++ name).toList.getLast? = some c := by
    rw [String.toList_append, hcs, ← List.append_assoc, List.getLast?_concat]
  have hopen : ¬ ((⟨front ++ name⟩ : Path).isEmpty ||
      (front ++ name).toList.getLast? == some '/') = true := by
    rw [hlast]
    simp [isEmpty, hfilled, hc]
  rw [hjoin, hboth, join, if_neg hslash, if_neg hopen]
  simp only [String.append_assoc]

theorem isAbsolute_join (hq : (⟨q⟩ : Path).isAbsolute = false) (root : Path) :
    (root.join q).isAbsolute = root.isAbsolute := by
  rcases join_cases hq root with ⟨rfl, hjoin⟩ | ⟨body, rfl, hjoin⟩ | ⟨hfilled, hjoin⟩
  · rw [hjoin, hq]
    rfl
  · rw [hjoin]
    cases hbody : body.toList <;> simp [isAbsolute, hbody]
  · rw [hjoin]
    cases htext : root.text.toList with
    | nil =>
      have hempty : root.text = "" := by simpa using htext
      exact absurd (congrArg Path.mk hempty) hfilled
    | cons c cs => simp [isAbsolute, htext]

theorem steps_join (hq : (⟨q⟩ : Path).isAbsolute = false) (root : Path) :
    (root.join q).steps = root.steps ++ (⟨q⟩ : Path).steps := by
  rcases join_cases hq root with ⟨rfl, hjoin⟩ | ⟨body, rfl, hjoin⟩ | ⟨-, hjoin⟩
  · rw [hjoin]
    rfl
  · have hbody : (⟨body ++ "/"⟩ : Path).steps = (⟨body⟩ : Path).steps := by
      have hempty : body ++ "/" = body ++ "/" ++ "" := (String.append_empty).symm
      have hnone : (⟨""⟩ : Path).steps = [] := by decide
      rw [hempty, steps_append_slash, hnone, List.append_nil]
    rw [hjoin, steps_append_slash, hbody]
  · rw [hjoin, steps_append_slash]

/-- A relative path is followed from where the root leads. -/
theorem resolved_join (hq : (⟨q⟩ : Path).isAbsolute = false) (root : Path) :
    (root.join q).resolved = follow root.resolved (⟨q⟩ : Path).steps := by
  rw [resolved_eq, resolved_eq, isAbsolute_join hq, steps_join hq, follow_append]

theorem StaysInside.isAbsolute (h : p.StaysInside) : p.isAbsolute = false := by
  obtain ⟨names, hnames⟩ := h
  rw [Bool.eq_false_iff]
  intro habsolute
  have hroot : p.resolved.head? = some .root := by
    rw [resolved_eq, if_pos habsolute]
    exact head?_follow (by simp) [] p.steps
  rw [hnames] at hroot
  cases names <;> simp at hroot

/-- Joined to any root, a path lies under it exactly if it never goes above its start. -/
theorem forall_liesUnder_join_iff :
    (∀ root : Path, (root.join q).LiesUnder root) ↔ (⟨q⟩ : Path).StaysInside := by
  constructor
  · intro h
    obtain ⟨names, hnames⟩ := h ⟨""⟩
    have hempty : (⟨""⟩ : Path).resolved = [] := by decide
    have hjoin : (⟨""⟩ : Path).join q = ⟨q⟩ := by
      unfold join
      split
      · rfl
      · simp [isEmpty]
    rw [hempty, hjoin, List.nil_append] at hnames
    exact ⟨names, hnames⟩
  · intro h root
    have hrelative := h.isAbsolute
    obtain ⟨names, hnames⟩ := h
    have hsteps : follow (([] : List String).map .name) (⟨q⟩ : Path).steps = names.map .name := by
      rw [← hnames, resolved_eq, hrelative]
      rfl
    refine ⟨names, ?_⟩
    rw [resolved_join hrelative]
    simpa using follow_names hsteps root.resolved

/-- A relative path without steps up stays inside. -/
theorem staysInside_of_steps (habsolute : p.isAbsolute = false)
    (h : ∀ step ∈ p.steps, step ≠ "..") : p.StaysInside := by
  refine ⟨p.steps, ?_⟩
  rw [resolved_eq, habsolute, follow_of_names h]
  rfl

end Join

end SchemaCodegen.Path
