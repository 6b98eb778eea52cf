import SchemaCodegen.Proofs.Script.Jobs
import SchemaCodegen.Template.Engine

/-!
# The template cache is only an optimisation

Rendering without a cache is rendering as it would be if every template were read where it is
needed (`Engine.renderUncached`). While the files of the templates stay as they are, an engine
whose cache was used in any way before renders what an engine without a cache does: the cache keeps
nothing but what the files say (`Cache.Faithful`), which every request keeps, those that fail for
any reason included, and every rendering with such a cache is one without
(`Engine.of_render`). So renderings with any two histories agree
(`Cache.Reachable.render_eq_of_new`).
-/

namespace SchemaCodegen.Template

/-! ## Files of templates -/

theorem Name.normalize_eq_ok {name normalized : String} (h : Name.canonical name = normalized)
    (hne : normalized.isEmpty = false)
    (hinside : (Path.components ⟨normalized⟩).any Name.escapesRoot = false) :
    Name.normalize name = .ok normalized := by
  simp only [Name.normalize, h, hne, hinside, Bool.false_eq_true, if_false]

/-- The files below a root that templates are read from. -/
inductive Name.IsFile (root : Path) : Path → Prop where
  | asked {name normalized : String} (h : Name.normalize name = .ok normalized) :
      IsFile root (Name.file root normalized)
  | named {name : String} (h : Name.isLoadable name = true) :
    IsFile root (Name.loadedFile root name)

/-- What the files hold. -/
abbrev Contents := Path → Except Disk.Fault ByteArray

/-- The files of templates hold on a disk what is given. -/
def Contents.On (content : Contents) (root : Path) (disk : Disk) : Prop :=
  ∀ path, Name.IsFile root path → disk.readFile path = content path

/-- What a reading of a file may give. -/
abbrev Readings := Path → Except Disk.Fault ByteArray → Prop

namespace Readings

/-- Files are read as they are. -/
def exact (content : Contents) : Readings :=
  fun path reply => reply = content path

/-- Any reading may fail. -/
def fallible (content : Contents) : Readings :=
  fun path reply => reply = content path ∨ ∃ fault, reply = .error fault

/-- What is read is what the files hold, and can always be read. -/
structure Honest (content : Contents) (may : Readings) : Prop where
  sound : ∀ {path bytes}, may path (.ok bytes) → content path = .ok bytes
  complete : ∀ path, may path (content path)

variable {content : Contents}

theorem honest_exact : Honest content (exact content) :=
  ⟨fun h => h.symm, fun _ => rfl⟩

theorem honest_fallible : Honest content (fallible content) where
  sound h := by
    rcases h with h | ⟨fault, h⟩
    · exact h.symm
    · cases h
  complete _ := .inl rfl

end Readings

namespace Engine

variable {σ α : Type} {root : Path} {content : Contents} {may : Readings} {name : String}
  {template main : Template} {cache cache' : Cache}

/-- A machine that reads as is allowed, and stays as it is. -/
def reading (may : Readings) : machine.Step σ
  | .read path, s, reply, s' => may path reply ∧ s' = s
  | _, s, _, s' => s' = s

/-- Such a machine, and a cache. -/
def serving (may : Readings) : engine.Step Cache :=
  Interface.Step.sum (reading may) (.ofAnswer Cache.answer)

theorem reading_keeps {call : Machine.Call} {s s' : σ} {reply : Machine.Reply call}
    (h : reading may call s reply s') : s' = s := by
  cases call with
  | read path => exact h.2
  | _ => exact h

theorem reading_anywhere {τ : Type} {call : Machine.Call} {s s' : σ} {reply : Machine.Reply call}
    (h : reading may call s reply s') (t : τ) : reading may call t reply t := by
  cases call with
  | read path => exact ⟨h.1, rfl⟩
  | _ => rfl

/-- What is read does not depend on what else the state holds, and changes nothing. -/
theorem of_runs_reading {m : Script machine α} {s s' : σ} {a : α}
    (h : m.Runs (reading may) s a s') : s' = s ∧ m.Runs (reading may) () a () :=
  ⟨h.keeps (P := fun s s' => s' = s) (fun _ => rfl) (fun h h' => h'.trans h)
      fun _ _ _ _ => reading_keeps,
    (h.map (f := fun _ => ()) (P := fun _ => True)
      (fun _ _ _ _ hstep _ => ⟨reading_anywhere hstep (), trivial⟩) trivial).1⟩

theorem runs_ask {call : Cache.Call} {reply : Cache.Reply call} :
    (ask call).Runs (serving may) cache reply cache' ↔ Cache.answer call cache = (reply, cache') :=
  Script.runs_right.trans Script.runs_call

theorem of_runs_ofMachine {m : Script machine α} {a : α}
    (h : (ofMachine m).Runs (serving may) cache a cache') :
    cache' = cache ∧ m.Runs (reading may) () a () :=
  of_runs_reading (Script.runs_left.1 h)

/-! ## Rendering without a cache -/

/-- A template that another one names: read anew, unless it is that template itself. -/
def lookUp (root : Path) (main : Template) (name : String) :
    Script machine (Except Fault Template) :=
  if main.name = name then return .ok main else readNamed root name

/-- Rendering where nothing is kept. -/
def renderUncached (root : Path) (name : String) (data : Json) :
    Script machine (Outcome String) := do
  match Name.normalize name with
  | .error failure => return .error failure
  | .ok name =>
    if isNull data then return .error (missingData name)
    match ← read root name with
    | .error cause => return .error (.render name cause)
    | .ok template =>
      match ← Script.interpret (I := templates) (lookUp root template)
          (Template.render template data) with
      | .ok text => return .ok text
      | .error fault => return .error (.render name (.evaluation fault))

/-- Reading ahead where nothing is kept: whether the template can be read. -/
def preloadUncached (root : Path) (name : String) : Script machine (Outcome Unit) := do
  match Name.normalize name with
  | .error failure => return .error failure
  | .ok name =>
    match ← read root name with
    | .error cause => return .error (.render name cause)
    | .ok _ => return .ok ()

/-! ## What is read -/

theorem name_of_compile {source : String} (h : compile name source = .ok template) :
    template.name = name := by
  simp only [compile, bind, Except.bind] at h
  split at h
  · cases h
  · cases h
    rfl

/-- The text of a file, compiled. -/
def Compiles (may : Readings) (path : Path) (name : String) (template : Template) : Prop :=
  ∃ bytes text, may path (.ok bytes) ∧ String.fromUTF8? bytes = some text ∧
    compile name text = .ok template

theorem Compiles.exact (hmay : may.Honest content) {path : Path}
    (h : Compiles may path name template) : Compiles (.exact content) path name template := by
  obtain ⟨bytes, text, hread, htext, hcompile⟩ := h
  exact ⟨bytes, text, (hmay.sound hread).symm, htext, hcompile⟩

theorem Compiles.of_exact (hmay : may.Honest content) {path : Path}
    (h : Compiles (.exact content) path name template) : Compiles may path name template := by
  obtain ⟨bytes, text, hread, htext, hcompile⟩ := h
  exact ⟨bytes, text, hread ▸ hmay.complete path, htext, hcompile⟩

theorem Compiles.name_eq {path : Path} (h : Compiles may path name template) :
    template.name = name := by
  obtain ⟨-, text, -, -, hcompile⟩ := h
  exact name_of_compile hcompile

theorem runs_tryReadText_ok {path : Path} {text : String} :
    (Job.tryReadText path).Runs (reading may) () (.ok text) () ↔
      ∃ bytes, may path (.ok bytes) ∧ String.fromUTF8? bytes = some text := by
  rw [Job.runs_tryReadText]
  constructor
  · rintro ⟨read, ⟨hread, -⟩, htext⟩
    cases Job.textOf_eq_ok_iff.1 htext.symm
    exact ⟨_, hread, Job.fromUTF8?_eq_some_iff.2 rfl⟩
  · rintro ⟨bytes, hread, htext⟩
    cases Job.fromUTF8?_eq_some_iff.1 htext
    exact ⟨_, ⟨hread, rfl⟩, (Job.textOf_eq_ok_iff.2 rfl).symm⟩

theorem runs_read_ok : (read root name).Runs (reading may) () (.ok template) () ↔
    Compiles may (Name.file root name) name template := by
  unfold read
  rw [Script.runs_bind]
  constructor
  · rintro ⟨reply, ⟨⟩, hread, h⟩
    cases reply with
    | error fault => cases fault <;> cases h.1
    | ok text =>
      obtain ⟨bytes, hbytes, htext⟩ := runs_tryReadText_ok.1 hread
      dsimp only at h
      split at h
      · cases h.1
      · next template' hcompile =>
        cases h.1
        exact ⟨bytes, text, hbytes, htext, hcompile⟩
  · rintro ⟨bytes, text, hbytes, htext, hcompile⟩
    refine ⟨.ok text, (), runs_tryReadText_ok.2 ⟨bytes, hbytes, htext⟩, ?_⟩
    dsimp only
    rw [hcompile]
    exact ⟨rfl, rfl⟩

theorem runs_readNamed_ok : (readNamed root name).Runs (reading may) () (.ok template) () ↔
    Name.isLoadable name = true ∧ Compiles may (Name.loadedFile root name) name template := by
  unfold readNamed
  cases hloadable : Name.isLoadable name with
  | false =>
    refine ⟨fun h => ?_, fun h => absurd h.1 Bool.false_ne_true⟩
    cases h.1
  | true =>
    simp only [Bool.not_true, Bool.false_eq_true, if_false, true_and]
    rw [Script.runs_bind]
    constructor
    · rintro ⟨reply, ⟨⟩, hread, h⟩
      cases reply with
      | error fault => cases fault <;> cases h.1
      | ok text =>
        obtain ⟨bytes, hbytes, htext⟩ := runs_tryReadText_ok.1 hread
        exact ⟨bytes, text, hbytes, htext, h.1⟩
    · rintro ⟨bytes, text, hbytes, htext, hcompile⟩
      exact ⟨.ok text, (), runs_tryReadText_ok.2 ⟨bytes, hbytes, htext⟩, hcompile, rfl⟩

end Engine

/-! ## What the cache keeps -/

namespace Cache

variable {root : Path} {content : Contents} {may : Readings} {name : String} {n m : Nat}
  {template main : Template} {cache cache' : Cache} {c : Cell}

theorem cell_setCell : (cache.setCell n c).cell m =
    if m = n ∧ n < cache.cells.length then c else cache.cell m := by
  simp only [cell, setCell, List.getElem?_set]
  by_cases hm : n = m
  · subst hm
    by_cases hn : n < cache.cells.length <;> simp [hn]
  · simp [hm, Ne.symm hm]

theorem lt_length_of_isReady (h : (cache.cell n).isReady = true) : n < cache.cells.length := by
  rcases Nat.lt_or_ge n cache.cells.length with hn | hn
  · exact hn
  · rw [cell, List.getElem?_eq_none hn] at h
    cases h

/-- A cell with a template as its file has it, and behind it such templates that it named. -/
structure Holds (root : Path) (content : Contents) (name : String) (main : Template) (c : Cell) :
    Prop where
  own : Engine.Compiles (.exact content) (Name.file root name) name main
  named : ∃ named, c = .ready main named ∧ ∀ template ∈ named,
    Name.isLoadable template.name = true ∧
      Engine.Compiles (.exact content) (Name.loadedFile root template.name) template.name template

/-- Every slot has what the files say. -/
def Faithful (root : Path) (content : Contents) (cache : Cache) : Prop :=
  ∀ name n, cache.slots[name]? = some n → ∃ main, Holds root content name main (cache.cell n)

theorem Holds.isReady (h : Holds root content name main c) : c.isReady = true := by
  obtain ⟨-, named, rfl, -⟩ := h
  rfl

theorem Holds.main?_eq (h : Holds root content name main c) : c.main? = some main := by
  obtain ⟨-, named, rfl, -⟩ := h
  rfl

theorem Holds.of_find?_eq_some (h : Holds root content name main c) {wanted : String}
    (hfind : c.find? wanted = some template) :
    template.name = wanted ∧ (main.name = wanted ∧ main = template ∨
      main.name ≠ wanted ∧ Name.isLoadable wanted = true ∧
        Engine.Compiles (.exact content) (Name.loadedFile root wanted) wanted template) := by
  obtain ⟨-, named, rfl, hnamed⟩ := h
  have hname : template.name = wanted := by simpa using List.find?_some hfind
  refine ⟨hname, ?_⟩
  rw [Cell.find?, List.find?_cons] at hfind
  split at hfind
  · next hmain => exact .inl ⟨by simpa using hmain, Option.some.inj hfind⟩
  · next hmain =>
    subst hname
    exact .inr ⟨by simpa using hmain, hnamed template (List.mem_of_find?_eq_some hfind)⟩

theorem Holds.name_ne_of_find?_eq_none (h : Holds root content name main c) {wanted : String}
    (hfind : c.find? wanted = none) : main.name ≠ wanted := by
  obtain ⟨-, named, rfl, -⟩ := h
  rintro rfl
  simp [Cell.find?] at hfind

theorem Holds.add (h : Holds root content name main c)
    (hloadable : Name.isLoadable template.name = true) (hcompiles : Engine.Compiles (.exact content)
      (Name.loadedFile root template.name) template.name template) :
    Holds root content name main (c.add template) := by
  obtain ⟨hown, named, rfl, hnamed⟩ := h
  refine ⟨hown, named ++ [template], rfl, fun t ht => ?_⟩
  rcases List.mem_append.1 ht with ht | ht
  · exact hnamed t ht
  · rw [List.mem_singleton.1 ht]
    exact ⟨hloadable, hcompiles⟩

namespace Faithful

theorem empty : Faithful root content default := by
  intro name n h
  have hnone : (default : Cache).slots[name]? = none := by
    change (∅ : Std.ExtTreeMap String Nat)[name]? = none
    simp
  rw [hnone] at h
  cases h

theorem clear (cache : Cache) : Faithful root content { cache with slots := ∅ } := by
  intro name n h
  simp at h

/-- A slot and its cell stay as they were, or the cell is one that holds what the file says. -/
theorem of_slots (h : Faithful root content cache)
    (hslots : ∀ name n, cache'.slots[name]? = some n →
      (cache.slots[name]? = some n ∧
        ((cache.cell n).isReady = true → cache'.cell n = cache.cell n)) ∨
        ∃ main, Holds root content name main (cache'.cell n)) : Faithful root content cache' := by
  intro name n hn
  rcases hslots name n hn with ⟨hslot, hcell⟩ | hholds
  · obtain ⟨main, hmain⟩ := h name n hslot
    exact ⟨main, hcell hmain.isReady ▸ hmain⟩
  · exact hholds

theorem add (h : Faithful root content cache) (hloadable : Name.isLoadable template.name = true)
    (hcompiles : Engine.Compiles (.exact content) (Name.loadedFile root template.name)
      template.name template) :
    Faithful root content (cache.setCell n ((cache.cell n).add template)) := by
  intro name m hm
  obtain ⟨main, hmain⟩ := h name m hm
  refine ⟨main, ?_⟩
  rw [cell_setCell]
  split
  · next hmn => exact hmn.1 ▸ hmain.add hloadable hcompiles
  · exact hmain

end Faithful

/-- A slot with a new cell. -/
def opened (cache : Cache) (name : String) (c : Cell) : Cache :=
  ⟨cache.slots.insert name cache.cells.length, cache.cells ++ [c]⟩

theorem slot_of_some (h : cache.slots[name]? = some n) : cache.slot name = (n, cache) := by
  rw [slot, h]

theorem slot_of_none (h : cache.slots[name]? = none) :
    cache.slot name = (cache.cells.length, cache.opened name .empty) := by
  rw [slot, h]
  rfl

@[simp] theorem cell_opened : (cache.opened name c).cell cache.cells.length = c := by
  simp [cell, opened]

@[simp] theorem setCell_opened {c' : Cell} :
    (cache.opened name c).setCell cache.cells.length c' = cache.opened name c' := by
  simp [setCell, opened]

theorem cell_opened_of_isReady (h : (cache.cell n).isReady = true) :
    (cache.opened name c).cell n = cache.cell n := by
  simp only [cell, opened, List.getElem?_append_left (lt_length_of_isReady h)]

/-- Dropping the new slot leaves the slots that were there. -/
theorem discard_opened : (cache.opened name .empty).discard name cache.cells.length =
    ⟨(cache.slots.insert name cache.cells.length).erase name, cache.cells ++ [.empty]⟩ := by
  rw [discard, cell_opened, if_pos ⟨by simp [opened], rfl⟩]
  rfl

namespace Faithful

theorem opened (h : Faithful root content cache) (hc : Holds root content name main c) :
    Faithful root content (cache.opened name c) := by
  refine h.of_slots fun name' n hn => ?_
  change (cache.slots.insert name cache.cells.length)[name']? = some n at hn
  rw [Std.ExtTreeMap.getElem?_insert] at hn
  split at hn
  · next hname =>
    cases hn
    rw [cell_opened, ← Std.LawfulEqCmp.eq_of_compare hname]
    exact .inr ⟨main, hc⟩
  · exact .inl ⟨hn, cell_opened_of_isReady⟩

theorem discard_opened (h : Faithful root content cache) :
    Faithful root content ((cache.opened name .empty).discard name cache.cells.length) := by
  refine h.of_slots fun name' n hn => .inl ?_
  rw [Cache.discard_opened] at hn ⊢
  rw [Std.ExtTreeMap.getElem?_erase, Std.ExtTreeMap.getElem?_insert] at hn
  split at hn
  · cases hn
  · have hcell (hready : (cache.cell n).isReady = true) :
        (cache.opened name .empty).cell n = cache.cell n :=
      cell_opened_of_isReady hready
    exact ⟨hn, hcell⟩

end Faithful

end Cache

namespace Engine

open Cache (Holds Faithful)

variable {α : Type} {root : Path} {content : Contents} {may : Readings} {name : String} {n : Nat}
  {template main : Template} {cache cache' : Cache}

/-- What obtaining a template comes to: it is there, it is read into a new slot, or it cannot be
read and the slot is dropped. -/
inductive Obtained (root : Path) (content : Contents) (may : Readings) (name : String)
    (cache : Cache) : Outcome (Nat × Template) → Cache → Prop where
  | kept {n : Nat} {main : Template} (hslot : cache.slots[name]? = some n)
      (hholds : Holds root content name main (cache.cell n)) :
      Obtained root content may name cache (.ok (n, main)) cache
  | compiled {main : Template} (hslot : cache.slots[name]? = none)
      (hread : (read root name).Runs (reading may) () (.ok main) ()) :
      Obtained root content may name cache (.ok (cache.cells.length, main))
        (cache.opened name (.ready main []))
  | failed {cause : Cause} (hslot : cache.slots[name]? = none)
      (hread : (read root name).Runs (reading may) () (.error cause) ()) :
      Obtained root content may name cache (.error (.render name cause))
        ((cache.opened name .empty).discard name cache.cells.length)

theorem obtained_of_runs (hcache : Faithful root content cache)
    {outcome : Outcome (Nat × Template)}
    (h : (obtain root name).Runs (serving may) cache outcome cache') :
    Obtained root content may name cache outcome cache' := by
  unfold obtain at h
  obtain ⟨n, started, hslot, h⟩ := Script.runs_bind.1 h
  obtain ⟨template?, going, hstart, h⟩ := Script.runs_bind.1 h
  rw [runs_ask] at hslot hstart
  simp only [Cache.answer] at hslot hstart
  cases hfound : cache.slots[name]? with
  | some k =>
    rw [Cache.slot_of_some hfound] at hslot
    cases hslot
    obtain ⟨main, hmain⟩ := hcache name n hfound
    rw [hmain.main?_eq] at hstart
    cases hstart
    obtain ⟨rfl, rfl⟩ := Script.runs_pure.1 h
    exact .kept hfound hmain
  | none =>
    rw [Cache.slot_of_none hfound] at hslot
    cases hslot
    rw [Cache.cell_opened, Cache.setCell_opened] at hstart
    cases hstart
    obtain ⟨result, left, hreading, h⟩ := Script.runs_bind.1 h
    obtain ⟨rfl, hread⟩ := of_runs_ofMachine hreading
    cases result with
    | ok template =>
      obtain ⟨⟨⟩, full, hfill, h⟩ := Script.runs_bind.1 h
      obtain ⟨rfl, rfl⟩ := Script.runs_pure.1 h
      have hfull := runs_ask.1 hfill
      rw [Cache.answer, Cache.setCell_opened] at hfull
      cases hfull
      exact .compiled hfound hread
    | error cause =>
      obtain ⟨⟨⟩, emptied, habandon, h⟩ := Script.runs_bind.1 h
      obtain ⟨⟨⟩, dropped, hdiscard, h⟩ := Script.runs_bind.1 h
      obtain ⟨rfl, rfl⟩ := Script.runs_pure.1 h
      have hemptied := runs_ask.1 habandon
      rw [Cache.answer, Cache.setCell_opened] at hemptied
      cases hemptied
      cases runs_ask.1 hdiscard
      exact .failed hfound hread

theorem holds_of_read (hmay : may.Honest content)
    (h : (read root name).Runs (reading may) () (.ok main) ()) :
    Holds root content name main (.ready main []) :=
  ⟨(runs_read_ok.1 h).exact hmay, [], rfl, fun _ hmem => nomatch hmem⟩

/-- A template is obtained as it would be read, and what the cache keeps is what the files say. -/
theorem of_obtain (hmay : may.Honest content) (hcache : Faithful root content cache)
    {outcome : Outcome (Nat × Template)}
    (h : (obtain root name).Runs (serving may) cache outcome cache') :
    Faithful root content cache' ∧
      ((∃ n main, outcome = .ok (n, main) ∧
          (read root name).Runs (reading may) () (.ok main) () ∧
          Holds root content name main (cache'.cell n)) ∨
        ∃ cause, outcome = .error (.render name cause) ∧
          (read root name).Runs (reading may) () (.error cause) ()) := by
  cases obtained_of_runs hcache h with
  | @kept n main hslot hholds =>
    exact ⟨hcache, .inl ⟨n, main, rfl, runs_read_ok.2 (hholds.own.of_exact hmay), hholds⟩⟩
  | @compiled main hslot hread =>
    have hholds := holds_of_read hmay hread
    exact ⟨hcache.opened hholds, .inl ⟨_, main, rfl, hread, Cache.cell_opened ▸ hholds⟩⟩
  | @failed cause hslot hread => exact ⟨hcache.discard_opened, .inr ⟨cause, rfl, hread⟩⟩

/-- The slots and a cell that a rendering uses. -/
def Uses (root : Path) (content : Contents) (name : String) (main : Template) (n : Nat)
    (cache : Cache) : Prop :=
  Faithful root content cache ∧ Holds root content name main (cache.cell n)

/-- A named template is obtained as it would be read. -/
theorem of_obtainNamed (hmay : may.Honest content) {own : String} {reply : Except Fault Template}
    (h : (obtainNamed root n name).Runs (serving may) cache reply cache')
    (huses : Uses root content own main n cache) :
    (lookUp root main name).Runs (reading may) () reply () ∧
      Uses root content own main n cache' := by
  unfold obtainNamed at h
  obtain ⟨found?, between, hfind, h⟩ := Script.runs_bind.1 h
  rw [runs_ask, Cache.answer] at hfind
  obtain ⟨rfl, rfl⟩ := Prod.mk.inj hfind
  rw [lookUp]
  cases hfound : (cache.cell n).find? name with
  | some template =>
    rw [hfound] at h
    obtain ⟨rfl, rfl⟩ := Script.runs_pure.1 h
    refine ⟨?_, huses⟩
    obtain ⟨rfl, ⟨hmain, rfl⟩ | ⟨hmain, hloadable, hcompiles⟩⟩ := huses.2.of_find?_eq_some hfound
    · rw [if_pos rfl]
      exact ⟨rfl, rfl⟩
    · rw [if_neg hmain]
      exact runs_readNamed_ok.2 ⟨hloadable, hcompiles.of_exact hmay⟩
  | none =>
    rw [hfound] at h
    rw [if_neg (huses.2.name_ne_of_find?_eq_none hfound)]
    obtain ⟨result, left, hreading, h⟩ := Script.runs_bind.1 h
    obtain ⟨rfl, hread⟩ := of_runs_ofMachine hreading
    cases result with
    | error fault =>
      obtain ⟨rfl, rfl⟩ := Script.runs_pure.1 h
      exact ⟨hread, huses⟩
    | ok template =>
      obtain ⟨⟨⟩, added, hadd, h⟩ := Script.runs_bind.1 h
      obtain ⟨rfl, rfl⟩ := Script.runs_pure.1 h
      cases runs_ask.1 hadd
      obtain ⟨hloadable, hcompiles⟩ := runs_readNamed_ok.1 hread
      have hcompiles := hcompiles.exact hmay
      obtain rfl := hcompiles.name_eq
      refine ⟨hread, huses.1.add hloadable hcompiles, ?_⟩
      rw [Cache.cell_setCell, if_pos ⟨rfl, Cache.lt_length_of_isReady huses.2.isReady⟩]
      exact huses.2.add hloadable hcompiles

/-- What is rendered asks for templates as it would without a cache. -/
theorem of_interpret (hmay : may.Honest content) {own : String} {m : Script templates α} {a : α}
    (h : (m.interpret (obtainNamed root n)).Runs (serving may) cache a cache')
    (huses : Uses root content own main n cache) :
    (m.interpret (lookUp root main)).Runs (reading may) () a () ∧
      Uses root content own main n cache' := by
  obtain ⟨hruns, hkept⟩ := (Script.runs_interpret.1 h).map (f := fun _ => ())
    (fun _ _ _ _ => of_obtainNamed hmay) huses
  exact ⟨Script.runs_interpret.2 hruns, hkept⟩

-- Neither what names come to nor what a rendering asks matters here, and both take long to unfold.
attribute [local irreducible] Name.normalize Template.render

/-- Rendering with a cache that holds what the files say is rendering without one. -/
theorem of_render (hmay : may.Honest content) {data : Json} {outcome : Outcome String}
    (h : (render root name data).Runs (serving may) cache outcome cache')
    (hcache : Faithful root content cache) :
    (renderUncached root name data).Runs (reading may) () outcome () ∧
      Faithful root content cache' := by
  unfold render at h
  unfold renderUncached
  cases hname : Name.normalize name with
  | error failure =>
    rw [hname] at h
    obtain ⟨rfl, rfl⟩ := Script.runs_pure.1 h
    exact ⟨⟨rfl, rfl⟩, hcache⟩
  | ok name =>
    rw [hname] at h
    dsimp only at h ⊢
    split at h
    · next hnull =>
      rw [if_pos hnull]
      obtain ⟨rfl, rfl⟩ := Script.runs_pure.1 h
      exact ⟨⟨rfl, rfl⟩, hcache⟩
    · next hnull =>
      rw [if_neg hnull]
      obtain ⟨obtained, between, hobtain, h⟩ := Script.runs_bind.1 h
      obtain ⟨hbetween, ⟨n, main, rfl, hread, hholds⟩ | ⟨cause, rfl, hread⟩⟩ :=
        of_obtain hmay hcache hobtain
      · obtain ⟨result, after, hrender, h⟩ := Script.runs_bind.1 h
        obtain ⟨hresult, hafter⟩ := of_interpret hmay hrender ⟨hbetween, hholds⟩
        cases result with
        | ok text =>
          obtain ⟨rfl, rfl⟩ := Script.runs_pure.1 h
          exact ⟨Script.runs_bind.2 ⟨_, (), hread,
            Script.runs_bind.2 ⟨_, (), hresult, rfl, rfl⟩⟩, hafter.1⟩
        | error fault =>
          obtain ⟨rfl, rfl⟩ := Script.runs_pure.1 h
          exact ⟨Script.runs_bind.2 ⟨_, (), hread,
            Script.runs_bind.2 ⟨_, (), hresult, rfl, rfl⟩⟩, hafter.1⟩
      · obtain ⟨rfl, rfl⟩ := Script.runs_pure.1 h
        exact ⟨Script.runs_bind.2 ⟨_, (), hread, rfl, rfl⟩, hbetween⟩

theorem of_preload (hmay : may.Honest content) {outcome : Outcome Unit}
    (h : (preload root name).Runs (serving may) cache outcome cache')
    (hcache : Faithful root content cache) :
    (preloadUncached root name).Runs (reading may) () outcome () ∧
      Faithful root content cache' := by
  unfold preload at h
  unfold preloadUncached
  cases hname : Name.normalize name with
  | error failure =>
    rw [hname] at h
    obtain ⟨rfl, rfl⟩ := Script.runs_pure.1 h
    exact ⟨⟨rfl, rfl⟩, hcache⟩
  | ok name =>
    rw [hname] at h
    obtain ⟨obtained, between, hobtain, h⟩ := Script.runs_bind.1 h
    obtain ⟨rfl, rfl⟩ := Script.runs_pure.1 h
    obtain ⟨hbetween, ⟨n, main, rfl, hread, -⟩ | ⟨cause, rfl, hread⟩⟩ :=
      of_obtain hmay hcache hobtain
    · exact ⟨Script.runs_bind.2 ⟨_, (), hread, rfl, rfl⟩, hbetween⟩
    · exact ⟨Script.runs_bind.2 ⟨_, (), hread, rfl, rfl⟩, hbetween⟩

/-! ## Requests -/

/-- What is asked of an engine. -/
inductive Request where
  | render (name : String) (data : Json)
  | preload (name : String)
  | preloadAll
  | clear

namespace Request

def Reply : Request → Type
  | .render _ _ => Outcome String
  | .preload _ => Outcome Unit
  | .preloadAll => Outcome Nat
  | .clear => Unit

/-- What an engine does about a request. -/
def script (root : Path) : (request : Request) → Script engine request.Reply
  | .render name data => Engine.render root name data
  | .preload name => Engine.preload root name
  | .preloadAll => Engine.preloadAll root
  | .clear => Engine.clear

end Request

theorem faithful_of_preloadEach (hmay : may.Honest content) {names : List String}
    {outcome : Outcome Unit}
    (h : (preloadEach root names).Runs (serving may) cache outcome cache')
    (hcache : Faithful root content cache) : Faithful root content cache' := by
  induction names generalizing cache with
  | nil => exact (Script.runs_pure.1 h).2 ▸ hcache
  | cons name names ih =>
    obtain ⟨first, between, hfirst, h⟩ := Script.runs_bind.1 h
    have hbetween := (of_preload hmay hfirst hcache).2
    cases first with
    | error failure => exact (Script.runs_pure.1 h).2 ▸ hbetween
    | ok => exact ih h hbetween

theorem faithful_of_preloadAll (hmay : may.Honest content) {outcome : Outcome Nat}
    (h : (preloadAll root).Runs (serving may) cache outcome cache')
    (hcache : Faithful root content cache) : Faithful root content cache' := by
  obtain ⟨listed, between, hlisted, h⟩ := Script.runs_bind.1 h
  obtain ⟨rfl, -⟩ := of_runs_ofMachine hlisted
  cases listed with
  | error failure => exact (Script.runs_pure.1 h).2 ▸ hcache
  | ok names =>
    obtain ⟨each, after, heach, h⟩ := Script.runs_bind.1 h
    exact (Script.runs_pure.1 h).2 ▸ faithful_of_preloadEach hmay heach hcache

/-- Whatever is asked, and whatever it fails of, the cache keeps what the files say. -/
theorem Request.faithful (hmay : may.Honest content) {request : Request}
    {reply : request.Reply} (h : (request.script root).Runs (serving may) cache reply cache')
    (hcache : Faithful root content cache) : Faithful root content cache' := by
  cases request with
  | render name data => exact (of_render hmay h hcache).2
  | preload name => exact (of_preload hmay h hcache).2
  | preloadAll => exact faithful_of_preloadAll hmay h hcache
  | clear =>
    cases runs_ask.1 h
    exact .clear cache

end Engine

namespace Cache

/-- The caches that engines with a root may have come to, whatever they were asked in whatever
order, while any reading might fail and the files that could be read were the same. -/
inductive Reachable (root : Path) (content : Contents) : Cache → Prop where
  | new : Reachable root content default
  | served {cache cache' : Cache} {request : Engine.Request} {reply : request.Reply}
      (before : Reachable root content cache)
      (h : (request.script root).Runs (Engine.serving (.fallible content)) cache reply cache') :
      Reachable root content cache'

theorem Reachable.faithful {root : Path} {content : Contents} {cache : Cache}
    (h : Reachable root content cache) : Faithful root content cache := by
  induction h with
  | new => exact .empty
  | served _ h ih => exact Engine.Request.faithful Readings.honest_fallible h ih

end Cache

/-! ## Engines that are alone -/

namespace Engine

variable {σ α : Type} {root : Path} {content : Contents} {name asked : String} {cache : Cache}

/-- Files of templates are read. -/
def ReadsFile (root : Path) : Machine.Call → Prop
  | .read path => Name.IsFile root path
  | _ => False

/-- Files of templates are read, and directories listed. -/
def Browses (root : Path) : Machine.Call → Prop
  | .read path => Name.IsFile root path
  | .list _ => True
  | _ => False

/-- What an engine may ask. -/
def Allowed (root : Path) : engine.Call → Prop
  | .inl call => Browses root call
  | .inr _ => True

theorem ReadsFile.browses {call : Machine.Call} (h : ReadsFile root call) : Browses root call := by
  cases call with
  | read path => exact h
  | _ => cases h

theorem readsFile_of_asked (h : Name.normalize asked = .ok name) {call : Machine.Call}
    (hcall : call = .read (Name.file root name)) : ReadsFile root call := by
  rw [hcall]
  exact .asked h

theorem readsFile_of_named {call : Machine.Call}
    (h : Name.isLoadable name = true ∧ call = .read (Name.loadedFile root name)) :
    ReadsFile root call := by
  rw [h.2]
  exact Name.IsFile.named h.1

theorem asks_read :
    (read root name).Asks (· = Machine.Call.read (Name.file root name)) := by
  refine .bind (Job.asks_tryReadText rfl) fun text => ?_
  cases text with
  | error fault => cases fault <;> trivial
  | ok text =>
    dsimp only
    split <;> exact .pure _

theorem asks_readNamed : (readNamed root name).Asks fun call =>
    Name.isLoadable name = true ∧ call = Machine.Call.read (Name.loadedFile root name) := by
  unfold readNamed
  cases hloadable : Name.isLoadable name with
  | false => exact .pure _
  | true =>
    refine .bind (Job.asks_tryReadText ⟨rfl, rfl⟩) fun text => ?_
    cases text with
    | error fault => cases fault <;> trivial
    | ok text => exact .pure _

theorem asks_namesBelow {allowed : Machine.Call → Prop}
    (hlist : ∀ directory, allowed (.list directory)) (depth : Nat) (parents : List String)
    (directory : Path) : (namesBelow depth parents directory).Asks allowed := by
  induction depth generalizing parents directory with
  | zero => exact .throw _
  | succ depth ih =>
    refine .bind (Script.Asks.bind (.call (hlist _)) fun _ => .pure _) fun entries => ?_
    refine .bind ?_ fun names => .pure _
    induction entries with
    | nil => exact .pure _
    | cons entry entries ihEntries =>
      rw [List.mapM_cons]
      refine .bind ?_ fun first => .bind ihEntries fun rest => .pure _
      dsimp only
      split
      · exact ih _ _
      · split <;> exact .pure _

theorem asks_ask (call : Cache.Call) : (ask call).Asks (Allowed root) :=
  .right (.call trivial)

theorem asks_ofMachine {m : Script machine α} (h : m.Asks (Browses root)) :
    (ofMachine m).Asks (Allowed root) :=
  .left h

-- Names, renderings and listings take long to unfold.
attribute [local irreducible] Name.normalize Template.render namesBelow

theorem asks_obtain (h : Name.normalize asked = .ok name) :
    (obtain root name).Asks (Allowed root) := by
  refine .bind (asks_ask _) fun n => .bind (asks_ask _) fun template? => ?_
  cases template? with
  | some template => exact .pure _
  | none =>
    refine .bind (asks_ofMachine (asks_read.mono fun _ hcall =>
      (readsFile_of_asked h hcall).browses)) fun result => ?_
    cases result with
    | ok template => exact .bind (asks_ask _) fun _ => .pure _
    | error cause => exact .bind (asks_ask _) fun _ => .bind (asks_ask _) fun _ => .pure _

theorem asks_obtainNamed {n : Nat} : (obtainNamed root n name).Asks (Allowed root) := by
  refine .bind (asks_ask _) fun found? => ?_
  cases found? with
  | some template => exact .pure _
  | none =>
    refine .bind (asks_ofMachine (asks_readNamed.mono fun _ hcall =>
      (readsFile_of_named hcall).browses)) fun result => ?_
    cases result with
    | ok template => exact .bind (asks_ask _) fun _ => .pure _
    | error fault => exact .pure _

theorem asks_lookUp {main : Template} : (lookUp root main name).Asks (ReadsFile root) := by
  unfold lookUp
  split
  · exact .pure _
  · exact asks_readNamed.mono fun _ => readsFile_of_named

theorem asks_render {data : Json} : (render root name data).Asks (Allowed root) := by
  unfold render
  cases hname : Name.normalize name with
  | error failure => exact .pure _
  | ok normalized =>
    dsimp only
    split
    · exact .pure _
    · refine .bind (asks_obtain hname) fun obtained => ?_
      cases obtained with
      | error failure => exact .pure _
      | ok found =>
        refine .bind (.interpret (.of_forall (fun _ => asks_obtainNamed) _)) fun result => ?_
        cases result <;> exact .pure _

theorem asks_renderUncached {data : Json} :
    (renderUncached root name data).Asks (ReadsFile root) := by
  unfold renderUncached
  cases hname : Name.normalize name with
  | error failure => exact .pure _
  | ok normalized =>
    dsimp only
    split
    · exact .pure _
    · refine .bind (asks_read.mono fun _ => readsFile_of_asked hname) fun result => ?_
      cases result with
      | error cause => exact .pure _
      | ok main =>
        refine .bind (.interpret (.of_forall (fun _ => asks_lookUp) _)) fun result => ?_
        cases result <;> exact .pure _

theorem asks_preload : (preload root name).Asks (Allowed root) := by
  unfold preload
  cases hname : Name.normalize name with
  | error failure => exact .pure _
  | ok normalized => exact .bind (asks_obtain hname) fun _ => .pure _

theorem asks_preloadUncached : (preloadUncached root name).Asks (ReadsFile root) := by
  unfold preloadUncached
  cases hname : Name.normalize name with
  | error failure => exact .pure _
  | ok normalized =>
    refine .bind (asks_read.mono fun _ => readsFile_of_asked hname) fun result => ?_
    cases result <;> exact .pure _

theorem asks_preloadEach (names : List String) : (preloadEach root names).Asks (Allowed root) := by
  induction names with
  | nil => exact .pure _
  | cons name names ih =>
    refine .bind asks_preload fun outcome => ?_
    cases outcome with
    | error failure => exact .pure _
    | ok => exact ih

theorem asks_preloadAll : (preloadAll root).Asks (Allowed root) := by
  refine .bind (asks_ofMachine (asks_namesBelow (fun _ => trivial) _ _ _)) fun listed => ?_
  cases listed with
  | error failure => exact .pure _
  | ok names => exact .bind (asks_preloadEach _) fun _ => .pure _

theorem Request.asks (request : Request) : (request.script root).Asks (Allowed root) := by
  cases request with
  | render name data => exact asks_render
  | preload name => exact asks_preload
  | preloadAll => exact asks_preloadAll
  | clear => exact asks_ask _

theorem serves_answer {call : engine.Call} (h : Allowed root call) {world : World}
    (hworld : content.On root world.disk) (cache : Cache) {reply : engine.Reply call}
    {world' : World} {cache' : Cache}
    (hanswer : Script.answerSum World.answer Cache.answer call (world, cache) =
      (reply, world', cache')) :
    serving (.exact content) call cache reply cache' ∧ content.On root world'.disk := by
  rcases call with call | call
  · cases call with
    | read path =>
      cases hanswer
      exact ⟨⟨hworld path h, rfl⟩, hworld⟩
    | list path =>
      cases hanswer
      exact ⟨rfl, hworld⟩
    | _ => cases h
  · cases hanswer
    exact ⟨rfl, hworld⟩

/-- An engine that is alone reads what the files hold. -/
theorem runs_alone {m : Script engine α} (hm : m.Asks (Allowed root)) {world : World}
    (hworld : content.On root world.disk) (cache : Cache) :
    m.Runs (serving (.exact content)) cache (runAlone m world cache).1
      (runAlone m world cache).2.2 := by
  have hrun : m.Runs (.ofAnswer (Script.answerSum World.answer Cache.answer)) (world, cache)
      (runAlone m world cache).1 (runAlone m world cache).2 :=
    Script.runs_ofAnswer.2 rfl
  have hserves : m.Runs (serving (.exact content)) cache (runAlone m world cache).1
      (runAlone m world cache).2.2 ∧ content.On root (runAlone m world cache).2.1.disk :=
    Script.Asks.map (f := Prod.snd) (P := fun s : World × Cache => content.On root s.1.disk) hm
      (fun _ _ _ _ hallowed hstep hs => serves_answer hallowed hs _ hstep) hrun hworld
  exact hserves.1

/-- The files hold one thing, so there is one way to read. -/
theorem runs_unique {m : Script machine α} (h : m.Asks (ReadsFile root)) {s t t' : σ} {a b : α}
    (hruns : m.Runs (reading (.exact content)) s a t)
    (hruns' : m.Runs (reading (.exact content)) s b t') : a = b := by
  refine (h.unique (fun call s reply t reply' t' hcall hstep hstep' => ?_) hruns hruns').1
  cases call with
  | read path => exact ⟨hstep.1.trans hstep'.1.symm, hstep.2.trans hstep'.2.symm⟩
  | _ => cases hcall

theorem render_congr {name' : String} (hname : Name.normalize name' = Name.normalize name)
    (data : Json) : render root name' data = render root name data := by
  unfold render
  rw [hname]

theorem preload_congr {name' : String} (hname : Name.normalize name' = Name.normalize name) :
    preload root name' = preload root name := by
  unfold preload
  rw [hname]

end Engine

namespace Cache

variable {root : Path} {content : Contents} {cache : Cache} {name name' : String}
  {world world' : World}

/-- Requests that are made one after the other lead from one such cache to the next. -/
theorem Reachable.alone (h : Reachable root content cache) (hworld : content.On root world.disk)
    (request : Engine.Request) :
    Reachable root content (runAlone (request.script root) world cache).2.2 := by
  refine .served h ((Engine.runs_alone request.asks hworld cache).mono fun call _ _ _ hstep => ?_)
  rcases call with call | call
  · cases call with
    | read path => exact ⟨.inl hstep.1, hstep.2⟩
    | _ => exact hstep
  · exact hstep

section

-- Names and renderings take long to unfold.
attribute [local irreducible] Name.normalize Template.render

theorem Faithful.runs_renderUncached (h : Faithful root content cache)
    (hworld : content.On root world.disk) (name : String) (data : Json) :
    (Engine.renderUncached root name data).Runs (Engine.reading (.exact content)) ()
      (runAlone (Engine.render root name data) world cache).1 () :=
  (Engine.of_render Readings.honest_exact (Engine.runs_alone Engine.asks_render hworld cache) h).1

theorem Faithful.runs_preloadUncached (h : Faithful root content cache)
    (hworld : content.On root world.disk) (name : String) :
    (Engine.preloadUncached root name).Runs (Engine.reading (.exact content)) ()
      (runAlone (Engine.preload root name) world cache).1 () :=
  (Engine.of_preload Readings.honest_exact (Engine.runs_alone Engine.asks_preload hworld cache) h).1

/-- Whatever an engine was asked before, it renders and preloads as a new one does, and so under
any spelling of the name. -/
theorem Reachable.render_eq_of_new (h : Reachable root content cache)
    (hname : Name.normalize name' = Name.normalize name) (hworld : content.On root world.disk)
    (hworld' : content.On root world'.disk) (data : Json) :
    (runAlone (Engine.render root name' data) world cache).1 =
        (runAlone (Engine.render root name data) world' default).1 ∧
      (runAlone (Engine.preload root name') world cache).1 =
        (runAlone (Engine.preload root name) world' default).1 := by
  rw [Engine.render_congr hname, Engine.preload_congr hname]
  exact ⟨Engine.runs_unique Engine.asks_renderUncached
      (h.faithful.runs_renderUncached hworld name data)
      (Faithful.empty.runs_renderUncached hworld' name data),
    Engine.runs_unique Engine.asks_preloadUncached
      (h.faithful.runs_preloadUncached hworld name)
      (Faithful.empty.runs_preloadUncached hworld' name)⟩

end

end Cache

namespace SelfIncluding

/-- A template that includes itself once. -/
def source : String :=
  "\x7b% if n %\x7d\x7b% set n = 0 %\x7d\x7b% include 'm.j2' %\x7d\x7b% else %\x7dx\x7b% endif %\x7d"

def disk : Disk :=
  ⟨(∅ : Std.ExtTreeMap Disk.Location Disk.Entry).insert ["m.j2"] (.file source.toUTF8), []⟩

def world : World :=
  ⟨disk, default, 0, false⟩

def root : Path := ⟨"/"⟩

def data : Json :=
  .object [("n", .bool true)]

/-- After a name that there is no template for, and a rendering that keeps the template twice. -/
def used : Cache :=
  (runAlone ((Engine.Request.render "m" data).script root) world
    (runAlone ((Engine.Request.preload "n").script root) world default).2.2).2.2

set_option maxRecDepth 100000 in
theorem render_eq_of_new_used : used.count = 1 ∧
    (runAlone (Engine.render root " m.J2" data) world used).1 =
        (runAlone (Engine.render root "m" data) world default).1 ∧
      (runAlone (Engine.preload root " m.J2") world used).1 =
        (runAlone (Engine.preload root "m") world default).1 := by
  have hworld : Contents.On disk.readFile root world.disk := fun _ _ => rfl
  have hused : Cache.Reachable root disk.readFile used :=
    (Cache.Reachable.new.alone hworld (.preload "n")).alone hworld (.render "m" data)
  have hname : Name.normalize " m.J2" = .ok "m" :=
    Name.normalize_eq_ok (by decide +kernel) (by decide) (by decide +kernel)
  have hname' : Name.normalize "m" = .ok "m" :=
    Name.normalize_eq_ok (by decide +kernel) (by decide) (by decide +kernel)
  exact ⟨by decide +kernel,
    hused.render_eq_of_new (hname.trans hname'.symm) hworld hworld data⟩

end SelfIncluding

end SchemaCodegen.Template
