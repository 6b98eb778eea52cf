import SchemaCodegen.Proofs.Disk.Entries

/-!
# Creating directories

Creating a directory with those above it adds directories and nothing else, whether it succeeds or
stops half-way (`Grown`). `Makes` are all the ways in which a creation may go, each of them ending
anywhere.
-/

namespace SchemaCodegen

/-- The second path is one of the parents of the first. -/
inductive Path.Above : Path → Path → Prop where
  | parent {p q : Path} (h : p.parent? = some q) : Above p q
  | up {p q r : Path} (above : Above p q) (h : q.parent? = some r) : Above p r

theorem Path.Above.of_parent {p q r : Path} (h : p.parent? = some q) (above : q.Above r) :
    p.Above r := by
  induction above with
  | parent hr => exact (Path.Above.parent h).up hr
  | up _ hr ih => exact ih.up hr

theorem Path.parent?_of_realParent? {p q : Path} (h : p.realParent? = some q) :
    p.parent? = some q :=
  (Option.filter_eq_some_iff.1 h).1

theorem Path.above_of_realParent? {p parent q : Path} (h : p.realParent? = some parent)
    (hq : q = parent ∨ parent.Above q) : p.Above q := by
  have hparent : p.parent? = some parent := parent?_of_realParent? h
  rcases hq with rfl | hq
  · exact .parent hparent
  · exact .of_parent hparent hq

namespace Disk

/-- Some directories at the given paths were created, one after the other. -/
inductive Makes (paths : Path → Prop) (d : Disk) : Disk → Prop where
  | none : Makes paths d d
  | one {d' d'' : Disk} {p : Path} (before : Makes paths d d') (hp : paths p)
      (h : d'.createDirectory p = .ok d'') : Makes paths d d''

/-- The entry at a location is as it was, or it is a new directory at one of the given paths. -/
def Kept (paths : Path → Prop) (d d' : Disk) (x : Location) : Prop :=
  d'.entry? x = d.entry? x ∨
    d.entry? x = none ∧ d'.entry? x = some .directory ∧ ∃ p, paths p ∧ d'.LeadsTo p x

/-- There are new directories at the given paths and nothing else is new. -/
structure Grown (paths : Path → Prop) (d d' : Disk) : Prop where
  workingDirectory : d'.workingDirectory = d.workingDirectory
  entry : ∀ x, Kept paths d d' x

section Grown

variable {paths paths' : Path → Prop} {d d' d'' : Disk} {p : Path} {x : Location}

theorem of_createDirectory_ok (h : d.createDirectory p = .ok d') :
    ∃ x, d.LeadsTo p x ∧ x ≠ [] ∧ d.entry? x = none ∧ d' = d.insert x .directory := by
  obtain ⟨⟨directory, name?, asDirectory⟩, hlocate, h⟩ := exists_of_bind_eq_ok h
  obtain ⟨found?, hfind, h⟩ := exists_of_bind_eq_ok h
  cases name? with
  | none => cases h
  | some name =>
    obtain ⟨-, hentry⟩ := find_some_iff.1 hfind
    cases found? with
    | some entry => cases h
    | none =>
      cases h
      exact ⟨_, ⟨_, hlocate, rfl⟩, by simp [Target.location], hentry, rfl⟩

theorem Grown.refl (paths : Path → Prop) (d : Disk) : Grown paths d d :=
  ⟨rfl, fun _ => .inl rfl⟩

theorem Kept.entry_some {e : Entry} (h : Kept paths d d' x) (hx : d.entry? x = some e) :
    d'.entry? x = some e := by
  rcases h with hsame | ⟨hnone, -⟩
  · rw [hsame, hx]
  · rw [hx] at hnone
    cases hnone

theorem Grown.toExtends (h : Grown paths d d') : Extends d d' :=
  ⟨h.workingDirectory, fun x => (h.entry x).entry_some⟩

theorem Grown.trans (h : Grown paths d d') (h' : Grown paths d' d'') : Grown paths d d'' := by
  refine ⟨h'.workingDirectory.trans h.workingDirectory, fun x => ?_⟩
  rcases h'.entry x with hsame' | ⟨hnone', hnew, hpath⟩
  · rcases h.entry x with hsame | ⟨hnone, hnew, p, hp, hleads⟩
    · exact .inl (hsame'.trans hsame)
    · exact .inr ⟨hnone, hsame'.trans hnew, p, hp, hleads.mono h'.toExtends⟩
  · rcases h.entry x with hsame | ⟨hnone, hold, -⟩
    · exact .inr ⟨hsame.symm.trans hnone', hnew, hpath⟩
    · rw [hold] at hnone'
      cases hnone'

/-- A file is where it was. -/
theorem Grown.file_iff (h : Grown paths d d') {content : ByteArray} :
    d'.entry? x = some (.file content) ↔ d.entry? x = some (.file content) := by
  rcases h.entry x with hsame | ⟨hnone, hnew, -⟩
  · rw [hsame]
  · simp [hnone, hnew]

theorem Grown.entry_none (h : Grown paths d d') (hx : d'.entry? x = none) :
    d.entry? x = none := by
  rcases h.entry x with hsame | ⟨hnone, -⟩
  · rw [← hsame, hx]
  · exact hnone

theorem Kept.of_eq (h : Kept paths d d' x) (hextends : Extends d' d'')
    (heq : d''.entry? x = d'.entry? x) : Kept paths d d'' x := by
  rcases h with hsame | ⟨hnone, hnew, p, hp, hleads⟩
  · exact .inl (heq.trans hsame)
  · exact .inr ⟨hnone, heq.trans hnew, p, hp, hleads.mono hextends⟩

theorem Grown.of_createDirectory (h : d.createDirectory p = .ok d') (hp : paths p) :
    Grown paths d d' := by
  obtain ⟨x, hleads, hne, hnone, rfl⟩ := of_createDirectory_ok h
  have hextends : Extends d (d.insert x .directory) := by
    refine ⟨rfl, fun y hy => ?_⟩
    rw [entryAt_insert hne]
    split
    · rfl
    · exact hy
  refine ⟨rfl, fun y => ?_⟩
  by_cases hyx : y = x
  · subst hyx
    exact .inr ⟨hnone, by rw [entryAt_insert hne, if_pos rfl], p, hp, hleads.mono hextends⟩
  · exact .inl (by rw [entryAt_insert hne, if_neg hyx])

theorem Makes.mono (h : Makes paths d d') (hpaths : ∀ p, paths p → paths' p) :
    Makes paths' d d' := by
  induction h with
  | none => exact .none
  | one _ hp h ih => exact ih.one (hpaths _ hp) h

theorem Makes.grown (h : Makes paths d d') : Grown paths d d' := by
  induction h with
  | none => exact .refl paths d
  | one _ hp h ih => exact ih.trans (.of_createDirectory h hp)

theorem Makes.stays (h : Makes paths d d') : Stays d d' := by
  induction h with
  | none => exact .refl d
  | one _ hp hcreate ih =>
    obtain ⟨x, -, hne, -, rfl⟩ := of_createDirectory_ok hcreate
    exact ih.trans (stays_insert hne fun _ => rfl)

end Grown

/-! ## Creating directories with those above them -/

section CreateDirectories

variable {paths : Path → Prop} {d d' : Disk} {p : Path} {reply : Except Fault Unit}

theorem Makes.settle (before : Makes paths d d') (hp : paths p) :
    Makes paths d (d'.settle p (d'.createDirectory p)).2 := by
  unfold Disk.settle
  cases hcreate : d'.createDirectory p with
  | ok created => exact before.one hp hcreate
  | error fault =>
    dsimp only
    split <;> exact before

theorem makes_createDirectoriesFrom (depth : Nat) {p : Path}
    (hpaths : ∀ q, q = p ∨ p.Above q → paths q) :
    Makes paths d (d.createDirectoriesFrom depth p).2 := by
  -- What is created for a parent is at one of the paths, since its parents are those of `p`.
  induction depth generalizing p with
  | zero => exact .none
  | succ depth ih =>
    have hp : paths p := hpaths p (.inl rfl)
    rw [createDirectoriesFrom]
    split
    · exact .none
    · next hparent =>
      split
      · obtain ⟨q, hq⟩ : ∃ q, p.parent? = some q := by
          cases hq : p.parent? with
          | none => simp [hq] at hparent
          | some q => exact ⟨q, rfl⟩
        have hmakes : Makes paths d (d.createDirectoriesFrom depth q).2 := by
          refine ih fun r hr => hpaths r (.inr ?_)
          rcases hr with rfl | hr
          · exact .parent hq
          · exact .of_parent hq hr
        rw [hq, Option.getD_some]
        cases houtcome : d.createDirectoriesFrom depth q with
        | mk reply d' =>
          rw [houtcome] at hmakes
          cases reply with
          | ok _ => exact hmakes.settle hp
          | error fault => exact hmakes
      · exact Makes.none.settle hp

theorem makes_createDirectories (d : Disk) (p : Path) :
    Makes (fun q => q = p ∨ p.Above q) d (d.createDirectories p).2 :=
  makes_createDirectoriesFrom _ fun _ hq => hq

theorem Makes.of_createDirectories {p : Path} {d' : Disk} {reply : Except Fault Unit}
    (h : d.createDirectories p = (reply, d')) : Makes (fun q => q = p ∨ p.Above q) d d' := by
  have hmakes := makes_createDirectories d p
  rwa [h] at hmakes

end CreateDirectories

end Disk

end SchemaCodegen
