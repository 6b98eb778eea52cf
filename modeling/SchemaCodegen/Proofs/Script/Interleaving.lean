import SchemaCodegen.Proofs.Script.Moments

/-!
# Tasks that share a state

Requests that are served at the same time, each by a task of its own: the tasks come in at any time
and go on question by question in any order, on a state that they share (`Hall.Step`). A course of
steps is told by what was asked and answered (`Hall.Course`). What a single task may ask at each
point is a protocol: `Follows step allowed final m s` tells that `m`, wherever the answers that
`step` allows lead its own account `s`, asks only what is allowed there and ends where it should.
-/

namespace SchemaCodegen

/-! ## Protocols -/

namespace Script

variable {I J : Interface} {σ α β : Type}

/-- Whatever the answers, a script asks what is allowed, and its end is as it should be. -/
def Follows (step : I.Step σ) (allowed : I.Call → σ → Prop) (final : α → σ → Prop) :
    Script I α → σ → Prop
  | .done a, s => final a s
  | .ask call next, s =>
    allowed call s ∧ ∀ reply t, step call s reply t → Follows step allowed final (next reply) t

namespace Follows

variable {step : I.Step σ} {allowed : I.Call → σ → Prop} {final final' : α → σ → Prop}
  {m : Script I α} {s : σ}

theorem pure {a : α} (h : final a s) : (Pure.pure a : Script I α).Follows step allowed final s := h

theorem call {c : I.Call} {final : I.Reply c → σ → Prop} (h : allowed c s)
    (hfinal : ∀ reply t, step c s reply t → final reply t) :
    (Script.call c).Follows step allowed final s :=
  ⟨h, hfinal⟩

theorem mono (h : m.Follows step allowed final s) (himp : ∀ a t, final a t → final' a t) :
    m.Follows step allowed final' s := by
  induction m generalizing s with
  | done a => exact himp a s h
  | ask call next ih => exact ⟨h.1, fun reply t hstep => ih reply (h.2 reply t hstep)⟩

theorem bind {between : α → σ → Prop} {final : β → σ → Prop} {f : α → Script I β}
    (hm : m.Follows step allowed between s)
    (hf : ∀ a t, between a t → (f a).Follows step allowed final t) :
    (m >>= f).Follows step allowed final s := by
  change (m.bind f).Follows step allowed final s
  induction m generalizing s with
  | done a => exact hf a s hm
  | ask call next ih => exact ⟨hm.1, fun reply t hstep => ih reply (hm.2 reply t hstep)⟩

/-- Each question is replaced by a script that ends where it may go on. -/
theorem interpret {m : Script I α} {permitted : I.Call → Prop}
    {f : (c : I.Call) → Script J (I.Reply c)} {step : J.Step σ} {allowed : J.Call → σ → Prop}
    {P : σ → Prop} (h : m.Asks permitted)
    (hf : ∀ c s, permitted c → P s → (f c).Follows step allowed (fun _ t => P t) s) (hs : P s) :
    (m.interpret f).Follows step allowed
      (fun a t => P t ∧ m.Runs (fun _ _ _ _ => True) () a ()) s := by
  induction m generalizing s with
  | done a => exact ⟨hs, rfl, rfl⟩
  | ask c next ih =>
    refine bind (hf c s h.1 hs) fun reply t ht => ?_
    refine (ih reply (h.2 reply) ht).mono fun a u ⟨hu, hruns⟩ => ?_
    exact ⟨hu, reply, (), trivial, hruns⟩

/-- A script that asks what leads nowhere else may ask it anywhere. -/
theorem of_asks {permitted : I.Call → Prop} (h : m.Asks permitted)
    (stays : ∀ call, permitted call → allowed call s ∧ ∀ reply t, step call s reply t → t = s) :
    m.Follows step allowed (fun _ t => t = s) s := by
  induction m with
  | done a => rfl
  | ask call next ih =>
    obtain ⟨hallowed, hstays⟩ := stays call h.1
    refine ⟨hallowed, fun reply t hstep => ?_⟩
    rw [hstays reply t hstep]
    exact ih reply (h.2 reply)

/-- A script of a larger interface. -/
theorem left {step : (I.sum J).Step σ} {allowed : (I.sum J).Call → σ → Prop}
    (h : m.Follows (fun call => step (.inl call)) (fun call => allowed (.inl call)) final s) :
    (Script.left m : Script (I.sum J) α).Follows step allowed final s := by
  induction m generalizing s with
  | done a => exact h
  | ask call next ih => exact ⟨h.1, fun reply t hstep => ih reply (h.2 reply t hstep)⟩

theorem right {m : Script J α} {step : (I.sum J).Step σ} {allowed : (I.sum J).Call → σ → Prop}
    (h : m.Follows (fun call => step (.inr call)) (fun call => allowed (.inr call)) final s) :
    (Script.right m : Script (I.sum J) α).Follows step allowed final s := by
  induction m generalizing s with
  | done a => exact h
  | ask call next ih => exact ⟨h.1, fun reply t hstep => ih reply (h.2 reply t hstep)⟩

theorem of_reaches {m' : Script I α} {s' : σ} (h : m.Follows step allowed final s)
    (hreaches : m.Reaches step s m' s') : m'.Follows step allowed final s' := by
  induction hreaches with
  | start => exact h
  | answered _ hstep ih => exact ih.2 _ _ hstep

end Follows

/-- A script asks something for some answers to what it asks before. -/
def MayAsk (m : Script I α) (call : I.Call) : Prop :=
  ∃ next, m.Reaches (fun _ _ _ _ => True) () (.ask call next) ()

theorem asks_mayAsk (m : Script I α) : m.Asks m.MayAsk := by
  induction m with
  | done a => trivial
  | ask call next ih =>
    refine ⟨⟨next, .start⟩, fun reply => (ih reply).mono fun c ⟨next', hreaches⟩ => ?_⟩
    have hfirst : Reaches (fun _ _ _ _ => True) (.ask call next) () (next reply) () :=
      .answered .start trivial
    exact ⟨next', hfirst.trans hreaches⟩

end Script

/-- A procedure goes on after a success, and ends with a failure. -/
theorem Procedure.follows_bind {I : Interface} {σ α β : Type} {step : I.Step σ}
    {allowed : I.Call → σ → Prop} {final : Outcome β → σ → Prop} {p : Procedure I α}
    {f : α → Procedure I β} {s : σ}
    (h : p.run.Follows step allowed (fun outcome t => match outcome with
      | .ok a => (f a).run.Follows step allowed final t
      | .error failure => final (.error failure) t) s) :
    (p >>= f).run.Follows step allowed final s := by
  refine Script.Follows.bind h fun outcome t ht => ?_
  cases outcome with
  | ok a => exact ht
  | error failure => exact ht

/-! ## Tasks -/

/-- What may be requested, and the script that serves each request. -/
structure Service (I : Interface) where
  Request : Type
  Reply : Request → Type
  script : (request : Request) → Script I (Reply request)

/-- Something that a task asked, and what it was told. -/
structure Event (I : Interface) where
  task : Nat
  call : I.Call
  reply : I.Reply call

/-- A request, and what is still to be asked to serve it. -/
structure Service.Task {I : Interface} (service : Service I) where
  request : service.Request
  rest : Script I (service.Reply request)

/-- The task that begins to serve a request. -/
def Service.task {I : Interface} (service : Service I) (request : service.Request) : service.Task :=
  ⟨request, service.script request⟩

/-- Tasks, in the order in which they came in, and the state that they share. -/
structure Hall {I : Interface} (service : Service I) (σ : Type) where
  state : σ
  tasks : List service.Task

namespace Hall

variable {I : Interface} {service : Service I} {σ : Type}

/-- A task comes in, or one of the tasks has a question answered. -/
inductive Step (step : I.Step σ) (hall : Hall service σ) :
    List (Event I) → Hall service σ → Prop where
  | enter (request : service.Request) :
      Step step hall [] { hall with tasks := hall.tasks ++ [service.task request] }
  | answer {i : Nat} {request : service.Request} {call : I.Call}
      {next : I.Reply call → Script I (service.Reply request)} {reply : I.Reply call} {s : σ}
      (task : hall.tasks[i]? = some ⟨request, .ask call next⟩)
      (h : step call hall.state reply s) :
      Step step hall [⟨i, call, reply⟩] ⟨s, hall.tasks.set i ⟨request, next reply⟩⟩

/-- Steps, and what was asked in them. -/
inductive Course (step : I.Step σ) (hall : Hall service σ) :
    List (Event I) → Hall service σ → Prop where
  | start : Course step hall [] hall
  | step {log events : List (Event I)} {hall' hall'' : Hall service σ}
      (before : Course step hall log hall') (h : Step step hall' events hall'') :
      Course step hall (log ++ events) hall''

variable {step : I.Step σ} {hall hall' hall'' : Hall service σ} {log log' events : List (Event I)}

theorem Course.trans (h : Course step hall log hall') (h' : Course step hall' log' hall'') :
    Course step hall (log ++ log') hall'' := by
  induction h' with
  | start =>
    rw [List.append_nil]
    exact h
  | step _ hstep ih =>
    rw [← List.append_assoc]
    exact ih.step hstep

/-- A task may be served without a break, as it would be alone. -/
theorem Course.of_runs {i : Nat} {request : service.Request} {m : Script I (service.Reply request)}
    {permitted : I.Call → Prop} {a : service.Reply request} {s : σ}
    (htask : hall.tasks[i]? = some ⟨request, m⟩) (hasks : m.Asks permitted)
    (h : m.Runs step hall.state a s) :
    ∃ log, Course step hall log ⟨s, hall.tasks.set i ⟨request, .done a⟩⟩ ∧
      ∀ event ∈ log, permitted event.call := by
  induction m generalizing hall with
  | done b =>
    obtain ⟨rfl, rfl⟩ := h
    refine ⟨[], ?_, fun _ hmem => nomatch hmem⟩
    obtain ⟨hlt, hi⟩ := List.getElem?_eq_some_iff.1 htask
    rw [← hi, List.set_getElem_self]
    exact .start
  | ask call next ih =>
    obtain ⟨reply, t, hstep, hrest⟩ := h
    have hlt := (List.getElem?_eq_some_iff.1 htask).1
    have hanswer : Step step hall [⟨i, call, reply⟩] ⟨t, hall.tasks.set i ⟨request, next reply⟩⟩ :=
      .answer htask hstep
    obtain ⟨log, hcourse, hlog⟩ := @ih reply ⟨t, hall.tasks.set i ⟨request, next reply⟩⟩
      (List.getElem?_set_self hlt) (hasks.2 reply) hrest
    rw [List.set_set] at hcourse
    refine ⟨[⟨i, call, reply⟩] ++ log, (Course.start.step hanswer).trans hcourse, ?_⟩
    intro event hevent
    rcases List.mem_append.1 hevent with hevent | hevent
    · rw [List.mem_singleton.1 hevent]
      exact hasks.1
    · exact hlog event hevent

/-- What holds of every task still does after a step, if it does of new tasks and of the task that
went on. -/
theorem Step.forall_tasks {P Q : Nat → service.Task → Prop} (h : Step step hall events hall')
    (all : ∀ (i : Nat) t, hall.tasks[i]? = some t → P i t)
    (enter : ∀ request, events = [] → Q hall.tasks.length (service.task request))
    (stay : ∀ i t, i < hall.tasks.length → (∀ event ∈ events, event.task ≠ i) → P i t → Q i t)
    (answer : ∀ {i request call next reply}, P i ⟨request, .ask call next⟩ →
      step call hall.state reply hall'.state → events = [⟨i, call, reply⟩] →
        Q i ⟨request, next reply⟩) :
    ∀ (i : Nat) t, hall'.tasks[i]? = some t → Q i t := by
  intro i t hi
  cases h with
  | enter request =>
    rcases Nat.lt_trichotomy i hall.tasks.length with hlt | rfl | hgt
    · rw [List.getElem?_append_left hlt] at hi
      exact stay i t hlt (fun _ hevent => nomatch hevent) (all i t hi)
    · rw [List.getElem?_append_right (Nat.le_refl _), Nat.sub_self] at hi
      cases hi
      exact enter request rfl
    · rw [List.getElem?_eq_none (by simp; omega)] at hi
      cases hi
  | @answer j request call next reply s task hstep =>
    rw [List.getElem?_set] at hi
    split at hi
    · next hj =>
      subst hj
      split at hi
      · cases hi
        exact answer (all j _ task) hstep rfl
      · cases hi
    · next hj =>
      have hothers : ∀ event ∈ [(⟨j, call, reply⟩ : Event I)], event.task ≠ i := by
        intro event hevent
        rw [List.mem_singleton.1 hevent]
        exact hj
      exact stay i t (List.getElem?_eq_some_iff.1 hi).1 hothers (all i t hi)

/-- A task goes on with its request. -/
theorem Course.exists_task (h : Course step hall log hall') {i : Nat} {t : service.Task}
    (hi : hall.tasks[i]? = some t) :
    ∃ t', hall'.tasks[i]? = some t' ∧ t'.request = t.request := by
  induction h with
  | start => exact ⟨t, hi, rfl⟩
  | step _ hstep ih =>
    obtain ⟨t', hi', hrequest⟩ := ih
    have hlt := (List.getElem?_eq_some_iff.1 hi').1
    cases hstep with
    | enter request => exact ⟨t', by rw [List.getElem?_append_left hlt, hi'], hrequest⟩
    | @answer j request call next reply s htask hanswer =>
      by_cases hij : j = i
      · subst hij
        rw [hi'] at htask
        cases htask
        exact ⟨_, List.getElem?_set_self hlt, hrequest⟩
      · exact ⟨t', by rw [List.getElem?_set_ne hij, hi'], hrequest⟩

/-- A course is cut at anything that was asked in it. -/
theorem Course.split {before between : List (Event I)} {event : Event I}
    (h : Course step hall (before ++ event :: between) hall') :
    ∃ hall₁ hall₂, Course step hall before hall₁ ∧ Step step hall₁ [event] hall₂ ∧
      Course step hall₂ between hall' := by
  generalize hlog : before ++ event :: between = log at h
  induction h generalizing between with
  | start => cases before <;> cases hlog
  | @step log events hall' hall'' hcourse hstep ih =>
    cases hstep with
    | enter request =>
      rw [List.append_nil] at hlog
      obtain ⟨hall₁, hall₂, hbefore, hat, hafter⟩ := ih hlog
      exact ⟨hall₁, hall₂, hbefore, hat, List.append_nil between ▸ hafter.step (.enter request)⟩
    | answer task hanswer =>
      rcases List.eq_nil_or_concat between with rfl | ⟨between, last, rfl⟩
      · obtain ⟨rfl, heq⟩ := List.append_inj' hlog rfl
        cases heq
        exact ⟨hall', _, hcourse, .answer task hanswer, .start⟩
      · rw [List.concat_eq_append, ← List.cons_append, ← List.append_assoc] at hlog
        obtain ⟨hearlier, heq⟩ := List.append_inj' hlog rfl
        cases heq
        obtain ⟨hall₁, hall₂, hbefore, hat, hafter⟩ := ih hearlier
        exact ⟨hall₁, hall₂, hbefore, hat,
          List.concat_eq_append .. ▸ hafter.step (.answer task hanswer)⟩

/-- What was asked first was asked in a course of its own. -/
theorem Course.of_append (h : Course step hall (log ++ log') hall') :
    ∃ hall₁, Course step hall log hall₁ := by
  cases log' with
  | nil => exact ⟨hall', List.append_nil log ▸ h⟩
  | cons event between =>
    obtain ⟨hall₁, -, hbefore, -⟩ := h.split
    exact ⟨hall₁, hbefore⟩

end Hall

end SchemaCodegen
