import Mathlib.Logic.Relation
import SchemaCodegen.Proofs.Disk.Parents
import SchemaCodegen.Proofs.Output.Preservation

/-!
# Calls that take turns

Calls with requests to one path are carried out one after the other, some of them fail, and an
account is kept of those that took effect (`Turn`). Whatever failed, the disk is the one that the
calls with an effect leave without the others, but for parents of the path (`serial_of_turns`).
Each of them finds the content that was at the path and has it in a backup of its own
(`Account.Saved`), so no content is lost (`Account.Has`).
-/

namespace SchemaCodegen.Output

open Disk (Extends Grown Location)

/-- A call that took effect, with what it found in the place of its file. -/
structure Effect where
  call : Nat
  found : Option ByteArray
  written : Written

/-- The call carries out its request and succeeds. -/
structure Effect.Happens (path : Path) (requests : List Request) (effect : Effect) (d d' : Disk) :
    Prop where
  run : ∃ request, requests[effect.call]? = some request ∧
    Procedure.Runs (faultyTask path true) (request.task path) d (.ok effect.written) d'
  found : ∀ content, effect.found = some content ↔
    ∃ x, d'.Names path x ∧ d.entry? x = some (.file content)

/-- Calls take effect one after the other, and nothing happens between them. -/
inductive Serial (path : Path) (requests : List Request) (d : Disk) :
    List Effect → Disk → Prop where
  | none : Serial path requests d [] d
  | next {effects : List Effect} {effect : Effect} {d' d'' : Disk}
      (before : Serial path requests d effects d') (h : effect.Happens path requests d' d'') :
      Serial path requests d (effects ++ [effect]) d''

/-- The effects so far, and the disk that they have led to. -/
structure Account where
  effects : List Effect
  disk : Disk

/-- A call is carried out as a whole: it takes effect, or it fails. -/
inductive Turn (path : Path) (requests : List Request) (a : Account) : Account → Prop where
  | effective {effect : Effect} {d : Disk} (h : effect.Happens path requests a.disk d) :
      Turn path requests a ⟨a.effects ++ [effect], d⟩
  | failed {request : Request} {failure : Failure} {d : Disk} (asked : request ∈ requests)
      (run : Procedure.Runs (faultyTask path true) (request.task path) a.disk (.error failure) d) :
      Turn path requests a ⟨a.effects, d⟩

abbrev Turns (path : Path) (requests : List Request) : Account → Account → Prop :=
  Relation.ReflTransGen (Turn path requests)

section Turns

variable {path : Path} {requests : List Request} {request : Request} {written : Written}
  {effects : List Effect} {effect : Effect} {a a' : Account} {d d' : Disk} {content : ByteArray}
  {failure : Failure} {x z : Location} {i : Nat}

/-! ## One call -/

/-- Where the path leads somewhere, a call that fails leaves nothing at all. -/
theorem eq_of_request_error (hx : d.Names path x)
    (h : Procedure.Runs (faultyTask path true) (request.task path) d (.error failure) d') :
    d' = d := by
  obtain ⟨between, hmakes, hleaves⟩ := makes_of_request_error h
  obtain rfl := hmakes.eq_of_names hx
  have hstays : Disk.Stays between d' := Script.Runs.keeps .refl .trans (fun call s reply s' => by
    cases call with
    | inl call => exact stays_of_faulty
    | inr call =>
      rintro rfl
      exact .refl s') h
  refine Disk.eq_of_entries hleaves.workingDirectory (fun y => ?_) hstays.root
  rcases hleaves.entry y with hsame | ⟨-, p, -, hp, -⟩
  · exact hsame
  · cases hp

theorem grown_of_request_error
    (h : Procedure.Runs (faultyTask path true) (request.task path) d (.error failure) d') :
    Grown path.Above d d' := by
  obtain ⟨between, hgrown, hleaves⟩ := of_request_error h
  exact hleaves.grown (fun _ => Bool.noConfusion) hgrown

/-- What a call finds is told by what it does. -/
theorem exists_effect (asked : requests[i]? = some request)
    (run : Procedure.Runs (faultyTask path true) (request.task path) d (.ok written) d') :
    ∃ effect : Effect, effect.call = i ∧ effect.written = written ∧
      effect.Happens path requests d d' := by
  obtain ⟨content, -, hreplaced⟩ := replaced_of_request run
  have hfound : ∃ found : Option ByteArray, ∀ content, found = some content ↔
      ∃ x, d'.Names path x ∧ d.entry? x = some (.file content) := by
    generalize written.backup = backup? at hreplaced
    cases hreplaced with
    | @created x _ names before _ _ =>
      refine ⟨none, fun content => ⟨nofun, ?_⟩⟩
      rintro ⟨y, hy, hfile⟩
      rw [hy.unique names, before] at hfile
      cases hfile
    | @overwritten x _ old _ _ names before _ _ _ _ _ =>
      refine ⟨some old, fun content => ⟨?_, ?_⟩⟩
      · rintro ⟨⟩
        exact ⟨x, names, before⟩
      · rintro ⟨y, hy, hfile⟩
        rw [hy.unique names, before] at hfile
        cases hfile
        rfl
  obtain ⟨found, hfound⟩ := hfound
  exact ⟨⟨i, found, written⟩, rfl, rfl, ⟨request, asked, run⟩, hfound⟩

namespace Effect.Happens

theorem replaced (h : effect.Happens path requests d d') : ∃ (content : ByteArray) (backup? : _),
    effect.written.backup = backup? ∧ Replaced path content d d' backup? := by
  obtain ⟨request, -, run⟩ := h.run
  obtain ⟨content, -, hreplaced⟩ := replaced_of_request run
  exact ⟨_, _, rfl, hreplaced⟩

theorem toExtends (h : effect.Happens path requests d d') : Extends d d' := by
  obtain ⟨content, backup?, -, hreplaced⟩ := h.replaced
  exact hreplaced.toExtends

theorem exists_names (h : effect.Happens path requests d d') : ∃ x, d'.Names path x := by
  obtain ⟨content, backup?, -, hreplaced⟩ := h.replaced
  cases hreplaced with
  | created _ names => exact ⟨_, names⟩
  | overwritten _ names => exact ⟨_, names⟩

/-- A file is as it was, or the call found it in the place of its own. -/
theorem entry (h : effect.Happens path requests d d') (hz : d.entry? z = some (.file content)) :
    d'.entry? z = some (.file content) ∨ d'.Names path z ∧ effect.found = some content := by
  by_cases hnames : d'.Names path z
  · exact .inr ⟨hnames, (h.found content).2 ⟨z, hnames, hz⟩⟩
  left
  obtain ⟨_, backup?, -, hreplaced⟩ := h.replaced
  have hne : ∀ x, d'.Names path x → z ≠ x := by
    rintro x hx rfl
    exact hnames hx
  cases hreplaced with
  | created _ names _ _ others => exact (others z (hne _ names)).entry_some hz
  | overwritten _ names _ _ _ free _ others =>
    refine (others z (hne _ names) ?_).entry_some hz
    rintro rfl
    rw [free] at hz
    cases hz

/-- What the call found is in its backup, where nothing was. -/
theorem backup (h : effect.Happens path requests d d') :
    (effect.found = none ∧ effect.written.backup = none) ∨
      ∃ backup x y content, effect.written.backup = some backup ∧ effect.found = some content ∧
        d'.Names path x ∧ d'.Names backup y ∧ y ≠ x ∧ d.entry? y = none ∧
        d'.entry? y = some (.file content) := by
  obtain ⟨_, backup?, hbackup, hreplaced⟩ := h.replaced
  rw [hbackup]
  cases hreplaced with
  | @created x _ names before _ _ =>
    refine .inl ⟨Option.eq_none_iff_forall_ne_some.2 fun content hfound => ?_, rfl⟩
    obtain ⟨y, hy, hfile⟩ := (h.found content).1 hfound
    rw [hy.unique names, before] at hfile
    cases hfile
  | @overwritten x y old backup _ names before _ namesBackup free saved _ =>
    refine .inr ⟨backup, x, y, old, rfl, (h.found old).2 ⟨x, names, before⟩, names, namesBackup,
      ?_, free, saved⟩
    rintro rfl
    rw [before] at free
    cases free

theorem exists_backup (h : effect.Happens path requests d d')
    (hfound : effect.found = some content) : ∃ backup, effect.written.backup = some backup := by
  rcases h.backup with ⟨hnone, -⟩ | ⟨backup, _, _, _, hbackup, -⟩
  · rw [hfound] at hnone
    cases hnone
  · exact ⟨backup, hbackup⟩

theorem of_backup {backup : Path} (h : effect.Happens path requests d d')
    (hbackup : effect.written.backup = some backup) :
    ∃ x y content, d'.Names path x ∧ d'.Names backup y ∧ y ≠ x ∧ effect.found = some content ∧
      d.entry? y = none ∧ d'.entry? y = some (.file content) := by
  rcases h.backup with ⟨-, hnone⟩ | ⟨_, x, y, content, hsome, hfound, hx, hy, hne, hfree, hfile⟩
  · rw [hbackup] at hnone
    cases hnone
  · rw [hbackup, Option.some.injEq] at hsome
    subst hsome
    exact ⟨x, y, content, hx, hy, hne, hfound, hfree, hfile⟩

end Effect.Happens

/-! ## Serial order -/

theorem Serial.eq_or_names (h : Serial path requests d effects d') :
    (effects = [] ∧ d' = d) ∨ ∃ x, d'.Names path x := by
  cases h with
  | none => exact .inl ⟨rfl, rfl⟩
  | next _ happens => exact .inr happens.exists_names

theorem Serial.asked (h : Serial path requests d effects d') (heffect : effect ∈ effects) :
    ∃ request, requests[effect.call]? = some request := by
  induction h with
  | none => exact absurd heffect List.not_mem_nil
  | next _ happens ih =>
    rcases List.mem_append.1 heffect with hold | hnew
    · exact ih hold
    · rw [List.mem_singleton.1 hnew]
      obtain ⟨request, asked, -⟩ := happens.run
      exact ⟨request, asked⟩

/-- Calls that fail leave nothing but parents of the path, and that only before the first effect. -/
theorem serial_of_turns (h : Turns path requests ⟨[], d⟩ a) :
    ∃ e, Grown path.Above d e ∧ (∀ x, d.Names path x → e = d) ∧
      Serial path requests e a.effects a.disk := by
  induction h with
  | refl => exact ⟨d, .refl _ d, fun _ _ => rfl, .none⟩
  | @tail a a' _ hturn ih =>
    obtain ⟨e, hgrown, hsame, hserial⟩ := ih
    cases hturn with
    | effective happens => exact ⟨e, hgrown, hsame, hserial.next happens⟩
    | @failed request failure d' _ run =>
      rcases hserial.eq_or_names with ⟨hnone, hdisk⟩ | ⟨x, hx⟩
      · rw [hdisk] at run
        refine ⟨d', hgrown.trans (grown_of_request_error run), fun x hx => ?_, ?_⟩
        · obtain rfl := hsame x hx
          exact eq_of_request_error hx run
        · rw [hnone]
          exact .none
      · obtain rfl := eq_of_request_error hx run
        exact ⟨e, hgrown, hsame, hserial⟩

/-! ## Contents -/

/-- The content is in its place, or a call found it there. -/
def Account.Has (a : Account) (z : Location) (content : ByteArray) : Prop :=
  a.disk.entry? z = some (.file content) ∨ ∃ effect ∈ a.effects, effect.found = some content

theorem Turn.has (h : Turn path requests a a') (hz : a.Has z content) : a'.Has z content := by
  cases h with
  | effective happens =>
    rcases hz with hz | ⟨effect, heffect, hfound⟩
    · rcases happens.entry hz with hkept | ⟨-, hfound⟩
      · exact .inl hkept
      · exact .inr ⟨_, List.mem_append_right _ List.mem_cons_self, hfound⟩
    · exact .inr ⟨effect, List.mem_append_left _ heffect, hfound⟩
  | failed _ run =>
    rcases hz with hz | hfound
    · exact .inl ((grown_of_request_error run).file_iff.2 hz)
    · exact .inr hfound

theorem has_of_turns (h : Turns path requests a a') (hz : a.Has z content) : a'.Has z content := by
  induction h with
  | refl => exact hz
  | tail _ hturn ih => exact hturn.has ih

/-- The backup of the call holds what it found, and is not at the path. -/
def Effect.IsSafe (path : Path) (effect : Effect) (d : Disk) : Prop :=
  ∀ backup, effect.written.backup = some backup → ∃ x y content, d.Names path x ∧
    d.Names backup y ∧ y ≠ x ∧ effect.found = some content ∧ d.entry? y = some (.file content)

namespace Effect.IsSafe

variable {other : Effect}

theorem of_happens (h : effect.Happens path requests d d') : effect.IsSafe path d' := by
  intro backup hbackup
  obtain ⟨x, y, content, hx, hy, hne, hfound, -, hfile⟩ := h.of_backup hbackup
  exact ⟨x, y, content, hx, hy, hne, hfound, hfile⟩

theorem grown (h : effect.IsSafe path d) (hgrown : Grown path.Above d d') :
    effect.IsSafe path d' := by
  intro backup hbackup
  obtain ⟨x, y, content, hx, hy, hne, hfound, hfile⟩ := h backup hbackup
  exact ⟨x, y, content, hx.mono hgrown.toExtends, hy.mono hgrown.toExtends, hne, hfound,
    hgrown.file_iff.2 hfile⟩

/-- The calls that follow come to the file of the path alone, and that is not a backup. -/
theorem happens (h : other.IsSafe path d) (happens : effect.Happens path requests d d') :
    other.IsSafe path d' := by
  intro backup hbackup
  obtain ⟨x, y, content, hx, hy, hne, hfound, hfile⟩ := h backup hbackup
  have hx' : d'.Names path x := hx.mono happens.toExtends
  rcases happens.entry hfile with hkept | ⟨hy', -⟩
  · exact ⟨x, y, content, hx', hy.mono happens.toExtends, hne, hfound, hkept⟩
  · exact absurd (hy'.unique hx') hne

/-- A new backup is made where nothing was. -/
theorem backup_ne {backup : Path} (h : other.IsSafe path d)
    (happens : effect.Happens path requests d d') (hbackup : effect.written.backup = some backup) :
    other.written.backup ≠ some backup := by
  intro hother
  obtain ⟨_, y, _, -, hy, -, -, hfile⟩ := h backup hother
  obtain ⟨_, y', _, -, hy', -, -, hfree, -⟩ := happens.of_backup hbackup
  rw [← (hy.mono happens.toExtends).unique hy', hfile] at hfree
  cases hfree

end Effect.IsSafe

/-- Each backup holds what its call found, and no two calls have one backup. -/
structure Account.Saved (path : Path) (a : Account) : Prop where
  found : ∀ effect ∈ a.effects, ∀ content, effect.found = some content →
    ∃ backup, effect.written.backup = some backup
  safe : ∀ effect ∈ a.effects, effect.IsSafe path a.disk
  distinct : (a.effects.filterMap (·.written.backup)).Nodup

theorem Account.Saved.start (d : Disk) : Account.Saved path ⟨[], d⟩ :=
  ⟨fun _ h => absurd h List.not_mem_nil, fun _ h => absurd h List.not_mem_nil, List.nodup_nil⟩

theorem Account.Saved.readFile (h : a.Saved path) (heffect : effect ∈ a.effects)
    (hfound : effect.found = some content) :
    ∃ backup, effect.written.backup = some backup ∧ a.disk.readFile backup = .ok content := by
  obtain ⟨backup, hbackup⟩ := h.found effect heffect content hfound
  obtain ⟨x, y, content', -, hy, -, hsame, hsaved⟩ := h.safe effect heffect backup hbackup
  rw [hfound] at hsame
  cases hsame
  exact ⟨backup, hbackup, Disk.readFile_iff.2 ⟨y, hy, hsaved⟩⟩

theorem Turn.saved (h : Turn path requests a a') (hsaved : a.Saved path) : a'.Saved path := by
  cases h with
  | failed _ run =>
    exact ⟨hsaved.found,
      fun effect heffect => (hsaved.safe effect heffect).grown (grown_of_request_error run),
      hsaved.distinct⟩
  | @effective effect d happens =>
    have hmem : ∀ other ∈ a.effects ++ [effect], other ∈ a.effects ∨ other = effect := by simp
    refine ⟨fun other hother => ?_, fun other hother => ?_, ?_⟩
    · rcases hmem other hother with hold | rfl
      · exact hsaved.found other hold
      · exact fun _ hfound => happens.exists_backup hfound
    · rcases hmem other hother with hold | rfl
      · exact (hsaved.safe other hold).happens happens
      · exact .of_happens happens
    · rw [List.filterMap_append, List.nodup_append]
      refine ⟨hsaved.distinct, ?_, ?_⟩
      · cases hbackup : effect.written.backup <;> simp [hbackup]
      · rintro backup hold _ hnew rfl
        obtain ⟨other, hother, hbackup⟩ := List.mem_filterMap.1 hold
        have hbackup' : effect.written.backup = some backup := by simpa using hnew
        exact (hsaved.safe other hother).backup_ne happens hbackup' hbackup

theorem saved_of_turns (h : Turns path requests ⟨[], d⟩ a) : a.Saved path := by
  induction h with
  | refl => exact .start d
  | tail _ hturn ih => exact hturn.saved ih

end Turns

end SchemaCodegen.Output
