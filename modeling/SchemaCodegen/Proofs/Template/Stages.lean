import Mathlib.Logic.Function.Basic
import SchemaCodegen.Proofs.Template.Sharing

/-!
# What a task does about a slot

A task that needs a template goes through stages: it is told the cell of the name, gets leave to
read the template, reads its file, and fills the cell or gives it up and drops the slot. Each stage
allows only what leads to the next one (`Stage.Allows`), and every request leads from one slot to
the next and ends with none (`Request.concludes`). So a step of one of the tasks is one of ten moves
(`Move`), which tell what becomes of its stage and of the cache.
-/

namespace SchemaCodegen.Template.Engine

/-! ## Reading a template -/

/-- The template that a text is, or what is wrong with it. -/
def templateOf (root : Path) (name : String) : Except Disk.Fault String → Except Cause Template
  | .error .notFound => .error (.notFound (Name.file root name))
  | .error fault => .error (.unreadable (Name.file root name) fault)
  | .ok source =>
    match compile name source with
    | .error _ => .error .malformed
    | .ok template => .ok template

theorem read_eq (root : Path) (name : String) : read root name =
    Job.readBytes (Name.file root name) >>= fun content =>
      pure (templateOf root name (Job.textOf content)) := by
  unfold read
  dsimp only
  rw [Job.tryReadText_eq, bind_assoc]
  refine congrArg _ (funext fun content => ?_)
  rw [pure_bind]
  cases Job.textOf content with
  | error fault => cases fault <;> rfl
  | ok source =>
    dsimp only [templateOf]
    cases compile name source <;> rfl

/-- The content of a file is a text that compiles. -/
def Yields (content : Except Disk.Fault ByteArray) (name : String) (template : Template) : Prop :=
  ∃ source, Job.textOf content = .ok source ∧ compile name source = .ok template

theorem templateOf_eq_ok_iff {root : Path} {name : String} {template : Template}
    {content : Except Disk.Fault ByteArray} :
    templateOf root name (Job.textOf content) = .ok template ↔ Yields content name template := by
  unfold Yields
  cases Job.textOf content with
  | error fault => cases fault <;> simp [templateOf]
  | ok source =>
    dsimp only [templateOf]
    cases hcompile : compile name source <;> simp [hcompile]

/-! ## Protocol -/

/-- How far a task has come with the slot of a name. -/
inductive Stage where
  | idle
  /-- It was told the cell. -/
  | holding (name : String) (n : Nat)
  /-- It has leave to read the template. -/
  | reading (name : String) (n : Nat)
  /-- It was told what the file holds. -/
  | compiling (name : String) (n : Nat) (content : Except Disk.Fault ByteArray)
  /-- There is no template, and the cell was given up. -/
  | failed (name : String) (n : Nat)

namespace Stage

/-- The slot that a task is at. -/
def slot? : Stage → Option (String × Nat)
  | .idle => none
  | .holding name n => some (name, n)
  | .reading name n => some (name, n)
  | .compiling name n _ => some (name, n)
  | .failed name n => some (name, n)

/-- The cell that others wait for the task to fill. -/
def filling? : Stage → Option Nat
  | .reading _ n => some n
  | .compiling _ n _ => some n
  | _ => none

def afterMachine : Stage → (call : Machine.Call) → Machine.Reply call → Stage
  | .reading name n, .read _, content => .compiling name n content
  | s, _, _ => s

def afterCache : Stage → (call : Cache.Call) → Cache.Reply call → Stage
  | .idle, .slot name, n => .holding name n
  | .holding _ _, .start _, some _ => .idle
  | .holding name n, .start _, none => .reading name n
  | .compiling _ _ _, .fill _ _, _ => .idle
  | .compiling name n _, .abandon _, _ => .failed name n
  | .failed _ _, .discard _ _, _ => .idle
  | s, _, _ => s

def after (s : Stage) : (call : engine.Call) → engine.Reply call → Stage
  | .inl call, reply => s.afterMachine call reply
  | .inr call, reply => s.afterCache call reply

/-- The file of the template is read by who has leave to, and the files of templates that are named
by who is at no slot. -/
def AllowsMachine (root : Path) (s : Stage) : Machine.Call → Prop
  | .read path => (∃ name n, s = .reading name n ∧ path = Name.file root name) ∨
      s = .idle ∧ ∃ wanted, Name.isLoadable wanted = true ∧ path = Name.loadedFile root wanted
  | .list _ => s = .idle
  | _ => False

/-- A cell is filled with what its file yields, and given up if that is nothing. -/
def AllowsCache (s : Stage) : Cache.Call → Prop
  | .start n => ∃ name, s = .holding name n
  | .fill n template => ∃ name content, s = .compiling name n content ∧ Yields content name template
  | .abandon n => ∃ name content, s = .compiling name n content ∧
      ∀ template, ¬ Yields content name template
  | .discard name n => s = .failed name n
  | _ => s = .idle

def Allows (root : Path) : engine.Call → Stage → Prop
  | .inl call, s => s.AllowsMachine root call
  | .inr call, s => s.AllowsCache call

def step : engine.Step Stage :=
  fun call s reply s' => s' = s.after call reply

end Stage

variable {α β : Type} {root : Path} {name : String} {n : Nat}

/-- Where a task may go on: at no slot. -/
def Concludes (root : Path) (m : Script engine α) : Prop :=
  m.Follows Stage.step (Stage.Allows root) (fun _ s => s = .idle) .idle

section Follows

variable {s : Stage}

theorem Stage.follows_ask {call : Cache.Call} {final : Cache.Reply call → Stage → Prop}
    (h : s.AllowsCache call) (hfinal : ∀ reply, final reply (s.afterCache call reply)) :
    (ask call).Follows Stage.step (Stage.Allows root) final s := by
  refine .right (.call h fun reply t ht => ?_)
  rw [ht]
  exact hfinal reply

/-- What is read decides between filling the cell and giving it up. -/
theorem Stage.follows_read : (ofMachine (read root name)).Follows Stage.step (Stage.Allows root)
    (fun result s => ∃ content, s = .compiling name n content ∧
      ∀ template, result = .ok template ↔ Yields content name template)
    (.reading name n) := by
  have hread : (Job.readBytes (Name.file root name)).Follows
      (fun call => Stage.step (.inl call)) (fun call => Stage.Allows root (.inl call))
      (fun content s => s = .compiling name n content) (.reading name n) :=
    ⟨Or.inl ⟨name, n, rfl, rfl⟩, fun _ _ ht => ht⟩
  rw [read_eq]
  exact .left (hread.bind fun content s hs =>
    .pure ⟨content, hs, fun template => templateOf_eq_ok_iff⟩)

end Follows

namespace Concludes

theorem pure (a : α) : Concludes root (Pure.pure a : Script engine α) :=
  Script.Follows.pure rfl

theorem bind {m : Script engine α} {f : α → Script engine β} (hm : Concludes root m)
    (hf : ∀ a, Concludes root (f a)) : Concludes root (m >>= f) :=
  Script.Follows.bind hm fun a s hs => by
    subst hs
    exact hf a

/-- A question that has nothing to do with slots. -/
theorem ask (call : Cache.Call) (h : Stage.idle.AllowsCache call)
    (hafter : ∀ reply, Stage.idle.afterCache call reply = .idle) :
    Concludes root (Engine.ask call) :=
  Stage.follows_ask h hafter

/-- Directories are listed, and files of templates read that are named. -/
theorem ofMachine {m : Script machine α} (h : m.Asks (Stage.idle.AllowsMachine root)) :
    Concludes root (Engine.ofMachine m) :=
  .left (.of_asks h fun call hcall => ⟨hcall, fun _ _ ht => by cases call <;> exact ht⟩)

theorem interpret {m : Script templates α} {f : String → Script engine (Except Fault Template)}
    (hf : ∀ name, Concludes root (f name)) : Concludes root (m.interpret (I := templates) f) :=
  (Script.Follows.interpret (P := (· = .idle)) m.asks_mayAsk (fun name s _ hs => by
    subst hs
    exact hf name) rfl).mono fun _ _ ht => ht.1

end Concludes

theorem concludes_obtain : Concludes root (obtain root name) := by
  have hslot : (ask (.slot name)).Follows Stage.step (Stage.Allows root)
      (fun (n : Nat) s => s = .holding name n) .idle :=
    Stage.follows_ask rfl fun _ => rfl
  refine hslot.bind fun n s hs => ?_
  subst hs
  have hstart : (ask (.start n)).Follows Stage.step (Stage.Allows root)
      (fun (found? : Option Template) s =>
        s = if found?.isSome then .idle else .reading name n) (.holding name n) :=
    Stage.follows_ask ⟨name, rfl⟩ fun found? => by cases found? <;> rfl
  refine hstart.bind fun found? s hs => ?_
  cases found? with
  | some template => exact .pure hs
  | none =>
    subst hs
    refine Stage.follows_read.bind fun result s ⟨content, hs, hresult⟩ => ?_
    subst hs
    cases result with
    | ok template =>
      have hfill : (ask (.fill n template)).Follows Stage.step (Stage.Allows root)
          (fun _ s => s = .idle) (.compiling name n content) :=
        Stage.follows_ask ⟨name, content, rfl, (hresult template).1 rfl⟩ fun _ => rfl
      exact hfill.bind fun _ _ hs => .pure hs
    | error cause =>
      have hnone : ∀ template, ¬ Yields content name template := fun template hyields =>
        nomatch (hresult template).2 hyields
      have habandon : (ask (.abandon n)).Follows Stage.step (Stage.Allows root)
          (fun _ s => s = .failed name n) (.compiling name n content) :=
        Stage.follows_ask ⟨name, content, rfl, hnone⟩ fun _ => rfl
      have hdiscard : (ask (.discard name n)).Follows Stage.step (Stage.Allows root)
          (fun _ s => s = .idle) (.failed name n) :=
        Stage.follows_ask rfl fun _ => rfl
      exact habandon.bind fun _ s hs => hs ▸ hdiscard.bind fun _ _ ht => .pure ht

theorem concludes_obtainNamed : Concludes root (obtainNamed root n name) := by
  refine (Concludes.ask (.find n name) rfl fun _ => rfl).bind fun found? => ?_
  cases found? with
  | some template => exact .pure _
  | none =>
    have hreads : (readNamed root name).Asks (Stage.idle.AllowsMachine root) :=
      asks_readNamed.mono fun call hcall => by
        rw [hcall.2]
        exact .inr ⟨rfl, name, hcall.1, rfl⟩
    refine (Concludes.ofMachine hreads).bind fun result => ?_
    cases result with
    | ok template =>
      exact (Concludes.ask (.add n template) rfl fun _ => rfl).bind fun _ => .pure _
    | error fault => exact .pure _

section

-- Names, renderings and listings take long to unfold.
attribute [local irreducible] Name.normalize Template.render namesBelow

theorem concludes_preload : Concludes root (preload root name) := by
  unfold preload
  cases Name.normalize name with
  | error failure => exact .pure _
  | ok normalized => exact concludes_obtain.bind fun _ => .pure _

theorem concludes_preloadEach (names : List String) : Concludes root (preloadEach root names) := by
  induction names with
  | nil => exact .pure _
  | cons name names ih =>
    refine concludes_preload.bind fun outcome => ?_
    cases outcome with
    | error failure => exact .pure _
    | ok => exact ih

theorem concludes_render {data : Json} : Concludes root (render root name data) := by
  unfold render
  cases Name.normalize name with
  | error failure => exact .pure _
  | ok normalized =>
    dsimp only
    split
    · exact .pure _
    · refine concludes_obtain.bind fun obtained => ?_
      cases obtained with
      | error failure => exact .pure _
      | ok found =>
        refine (Concludes.interpret fun _ => concludes_obtainNamed).bind fun result => ?_
        cases result <;> exact .pure _

theorem Request.concludes (root : Path) (request : Request) :
    Concludes root (request.script root) := by
  cases request with
  | render name data => exact concludes_render
  | preload name => exact concludes_preload
  | preloadAll =>
    refine (Concludes.ofMachine (asks_namesBelow (fun _ => rfl) _ _ _)).bind fun listed => ?_
    cases listed with
    | error failure => exact .pure _
    | ok names => exact (concludes_preloadEach _).bind fun _ => .pure _
  | clear => exact .ask .clear rfl fun _ => rfl

end

/-! ## Moves -/

/-- The cell that a task was told for a name. -/
def lookUp? (name : String) : Event engine → Option Nat
  | ⟨_, .inr (.slot asked), n⟩ => if asked = name then some n else none
  | _ => none

/-- What a task asks at a stage and is told, and what becomes of the stage and of the cache. -/
inductive Move (cache : Cache) : Stage → Event engine → Stage → Cache → Prop where
  | lookedUp (i : Nat) (name : String) :
      Move cache .idle ⟨i, .inr (.slot name), (cache.slot name).1⟩
        (.holding name (cache.slot name).1) (cache.slot name).2
  | found {name : String} {n : Nat} {template : Template} (i : Nat)
      (h : (cache.cell n).main? = some template) :
      Move cache (.holding name n) ⟨i, .inr (.start n), (some template : Option Template)⟩ .idle
        cache
  | started {name : String} {n : Nat} (i : Nat) (h : cache.cell n = .empty) :
      Move cache (.holding name n) ⟨i, .inr (.start n), (none : Option Template)⟩
        (.reading name n) (cache.setCell n .busy)
  | read {name : String} {n : Nat} (i : Nat) (path : Path)
      (content : Except Disk.Fault ByteArray) :
      Move cache (.reading name n) ⟨i, .inl (.read path), content⟩ (.compiling name n content) cache
  | filled {name : String} {n : Nat} {content : Except Disk.Fault ByteArray} {template : Template}
      (i : Nat) (h : Yields content name template) :
      Move cache (.compiling name n content) ⟨i, .inr (.fill n template), ()⟩ .idle
        (cache.setCell n (.ready template []))
  | gaveUp {name : String} {n : Nat} {content : Except Disk.Fault ByteArray} (i : Nat) :
      Move cache (.compiling name n content) ⟨i, .inr (.abandon n), ()⟩ (.failed name n)
        (cache.setCell n .empty)
  | discarded {name : String} {n : Nat} (i : Nat) :
      Move cache (.failed name n) ⟨i, .inr (.discard name n), ()⟩ .idle (cache.discard name n)
  | added (i n : Nat) (template : Template) :
      Move cache .idle ⟨i, .inr (.add n template), ()⟩ .idle
        (cache.setCell n ((cache.cell n).add template))
  | cleared (i : Nat) : Move cache .idle ⟨i, .inr .clear, ()⟩ .idle { cache with slots := ∅ }
  | quiet (event : Event engine) (h : ∀ name, lookUp? name event = none) :
      Move cache .idle event .idle cache

/-- A task that asks what its stage allows makes a move. -/
theorem move_of_sharing {s : Stage} {event : Event engine} {cache cache' : Cache}
    (hallowed : Stage.Allows root event.call s)
    (h : sharing event.call cache event.reply cache') :
    Move cache s event (s.after event.call event.reply) cache' := by
  obtain ⟨i, call, reply⟩ := event
  rcases call with call | call
  · cases h
    cases call with
    | read path =>
      rcases hallowed with ⟨name, n, rfl, -⟩ | ⟨rfl, -⟩
      · exact .read i path reply
      · exact .quiet _ fun _ => rfl
    | list path =>
      cases hallowed
      exact .quiet _ fun _ => rfl
    | _ => cases hallowed
  · obtain ⟨hopen, hanswer⟩ := h
    cases call with
    | slot name =>
      cases hallowed
      obtain ⟨rfl, rfl⟩ := Prod.mk.inj (show cache.slot name = (reply, cache') from hanswer)
      exact .lookedUp i name
    | start n =>
      obtain ⟨name, rfl⟩ := hallowed
      rw [Cache.answer] at hanswer
      cases hcell : cache.cell n with
      | empty =>
        rw [hcell] at hanswer
        cases hanswer
        exact .started i hcell
      | busy =>
        rw [Cache.isOpen, hcell] at hopen
        cases hopen
      | ready main named =>
        rw [hcell] at hanswer
        cases hanswer
        exact .found i (by rw [hcell]; rfl)
    | fill n template =>
      obtain ⟨name, content, rfl, hyields⟩ := hallowed
      cases hanswer
      exact .filled i hyields
    | abandon n =>
      obtain ⟨name, content, rfl, -⟩ := hallowed
      cases hanswer
      exact .gaveUp i
    | discard name n =>
      cases hallowed
      cases hanswer
      exact .discarded i
    | add n template =>
      cases hallowed
      cases hanswer
      exact .added i n template
    | clear =>
      cases hallowed
      cases hanswer
      exact .cleared i
    | find n name =>
      cases hallowed
      cases hanswer
      exact .quiet _ fun _ => rfl
    | count =>
      cases hallowed
      cases hanswer
      exact .quiet _ fun _ => rfl

end SchemaCodegen.Template.Engine
