import SchemaCodegen.Proofs.Script.Runs

/-!
# Moments of runs

What holds while a script runs, and not only at its end: `Through step during after m s` tells that
in every run of `m` from `s` the state has `during` whenever something is still to be asked, and
that the result and the last state have `after`. The moments of a run are the scripts that are left
to run at some state (`Reaches`); a run goes on from each of them, and what holds through the whole
run holds through the rest of it. Where every question has one answer, the run asks certain
questions, one after the other (`questions`).
-/

namespace SchemaCodegen

namespace Script

variable {I J : Interface} {σ α β : Type}

def Through (step : I.Step σ) (during : σ → Prop) (after : α → σ → Prop) :
    Script I α → σ → Prop
  | .done a, s => after a s
  | .ask call next, s =>
    during s ∧ ∀ reply t, step call s reply t → Through step during after (next reply) t

/-- Some questions of a script have been answered, and another script is left to run. -/
inductive Reaches (step : I.Step σ) (m : Script I α) (s : σ) : Script I α → σ → Prop where
  | start : Reaches step m s m s
  | answered {call : I.Call} {next : I.Reply call → Script I α} {t u : σ} {reply : I.Reply call}
      (before : Reaches step m s (.ask call next) t) (h : step call t reply u) :
      Reaches step m s (next reply) u

variable {step : I.Step σ} {during during' : σ → Prop} {after after' : α → σ → Prop}
  {m m' : Script I α} {s s' t : σ} {a : α}

@[simp] theorem through_call {call : I.Call} {after : I.Reply call → σ → Prop} :
    Through step during after (Script.call call) s ↔
      during s ∧ ∀ reply t, step call s reply t → after reply t := Iff.rfl

namespace Through

theorem mono (h : m.Through step during after s) (hduring : ∀ t, during t → during' t)
    (hafter : ∀ a t, after a t → after' a t) : m.Through step during' after' s := by
  induction m generalizing s with
  | done c => exact hafter c s h
  | ask call next ih =>
    exact ⟨hduring s h.1, fun reply t hstep => ih reply (h.2 reply t hstep)⟩

/-- What holds at the end may be taken to be the end of a run. -/
theorem runs (h : m.Through step during after s) :
    m.Through step during (fun a t => after a t ∧ m.Runs step s a t) s := by
  induction m generalizing s with
  | done c => exact ⟨h, rfl, rfl⟩
  | ask call next ih =>
    refine ⟨h.1, fun reply t hstep => ?_⟩
    exact (ih reply (h.2 reply t hstep)).mono (fun _ hduring => hduring)
      fun a u hafter => ⟨hafter.1, reply, t, hstep, hafter.2⟩

theorem bind {between : α → σ → Prop} {after : β → σ → Prop} {f : α → Script I β}
    (hm : m.Through step during between s)
    (hf : ∀ a t, between a t → (f a).Through step during after t) :
    (m >>= f).Through step during after s := by
  change (m.bind f).Through step during after s
  induction m generalizing s with
  | done c => exact hf c s hm
  | ask call next ih => exact ⟨hm.1, fun reply t hstep => ih reply (hm.2 reply t hstep)⟩

/-- A script that only asks what leaves the state alone. -/
theorem of_asks {allowed : I.Call → Prop} (h : m.Asks allowed)
    (leaves : ∀ call reply t, allowed call → step call s reply t → t = s) :
    m.Through step (· = s) (fun _ t => t = s) s := by
  induction m with
  | done c => rfl
  | ask call next ih =>
    refine ⟨rfl, fun reply t hstep => ?_⟩
    rw [leaves call reply t h.1 hstep]
    exact ih reply (h.2 reply)

end Through

/-- A script as one of a larger interface has the same moments. -/
theorem through_left {step : (I.sum J).Step σ} :
    Through step during after m.left s ↔
      Through (fun call => step (.inl call)) during after m s := by
  induction m generalizing s with
  | done c => rfl
  | ask call next ih =>
    exact and_congr Iff.rfl (forall_congr' fun reply => forall_congr' fun t =>
      imp_congr Iff.rfl (ih reply))

namespace Reaches

theorem runs (h : Reaches step m s m' t) (hruns : m'.Runs step t a s') : m.Runs step s a s' := by
  induction h with
  | start => exact hruns
  | answered _ hstep ih => exact ih ⟨_, _, hstep, hruns⟩

theorem through (h : Reaches step m s m' t) (hm : m.Through step during after s) :
    m'.Through step during after t := by
  induction h with
  | start => exact hm
  | answered _ hstep ih => exact ih.2 _ _ hstep

theorem trans {m'' : Script I α} (h : Reaches step m s m' t) (h' : Reaches step m' t m'' s') :
    Reaches step m s m'' s' := by
  induction h' with
  | start => exact h
  | answered _ hstep ih => exact .answered ih hstep

theorem bind (h : Reaches step m s m' t) (f : α → Script I β) :
    Reaches step (m >>= f) s (m' >>= f) t := by
  induction h with
  | start => exact .start
  | @answered call next _ _ reply _ hstep ih =>
    have hask : (Script.ask call next >>= f) = .ask call fun reply => next reply >>= f := rfl
    rw [hask] at ih
    exact ih.answered hstep

end Reaches

/-- The end of a run is one of its moments. -/
theorem Runs.reaches (h : m.Runs step s a s') : Reaches step m s (.done a) s' := by
  induction m generalizing s with
  | done c =>
    obtain ⟨rfl, rfl⟩ := h
    exact .start
  | ask call next ih =>
    obtain ⟨reply, t, hstep, hrest⟩ := h
    have hfirst : Reaches step (.ask call next) s (next reply) t := .answered .start hstep
    exact hfirst.trans (ih reply hrest)

/-- What the run asks in which each question is answered by a function, in order. -/
def questions (answer : (call : I.Call) → σ → I.Reply call × σ) : Script I α → σ → List I.Call
  | .done _, _ => []
  | .ask call next, s =>
    call :: questions answer (next (answer call s).1) (answer call s).2

theorem run_ask (answer : (call : I.Call) → σ → I.Reply call × σ) (call : I.Call)
    (next : I.Reply call → Script I α) (s : σ) :
    run answer (.ask call next) s = run answer (next (answer call s).1) (answer call s).2 := rfl

theorem questions_ask (answer : (call : I.Call) → σ → I.Reply call × σ) (call : I.Call)
    (next : I.Reply call → Script I α) (s : σ) :
    questions answer (.ask call next) s =
      call :: questions answer (next (answer call s).1) (answer call s).2 := rfl

end Script

/-! ## Procedures -/

namespace Procedure

variable {I J : Interface} {σ α β : Type}

/-- The moments of a procedure, and its end, which may be a failure. -/
def Through (step : I.Step σ) (during : σ → Prop) (after : Outcome α → σ → Prop)
    (p : Procedure I α) (s : σ) : Prop :=
  Script.Through step during after p.run s

namespace Through

variable {step : I.Step σ} {during during' : σ → Prop} {after after' : Outcome α → σ → Prop}
  {p : Procedure I α} {s : σ}

theorem mono (h : p.Through step during after s) (hduring : ∀ t, during t → during' t)
    (hafter : ∀ outcome t, after outcome t → after' outcome t) :
    p.Through step during' after' s :=
  Script.Through.mono h hduring hafter

theorem runs (h : p.Through step during after s) :
    p.Through step during (fun outcome t => after outcome t ∧ p.Runs step s outcome t) s :=
  Script.Through.runs h

theorem bind {between : Outcome α → σ → Prop} {after : Outcome β → σ → Prop}
    {f : α → Procedure I β} (hp : p.Through step during between s)
    (herror : ∀ failure t, between (.error failure) t → after (.error failure) t)
    (hok : ∀ a t, between (.ok a) t → (f a).Through step during after t) :
    (p >>= f).Through step during after s := by
  refine Script.Through.bind hp fun outcome t h => ?_
  cases outcome with
  | error failure => exact herror failure t h
  | ok a => exact hok a t h

/-- A procedure that only asks what leaves the state alone. -/
theorem of_asks {allowed : I.Call → Prop} (h : p.Asks allowed)
    (leaves : ∀ call reply t, allowed call → step call s reply t → t = s) :
    p.Through step (· = s) (fun _ t => t = s) s :=
  Script.Through.of_asks h leaves

end Through

/-- What comes after a procedure that has succeeded is a moment of the whole. -/
theorem Runs.reaches {step : I.Step σ} {p : Procedure I α} {s t : σ} {a : α}
    (h : p.Runs step s (.ok a) t) (f : α → Procedure I β) :
    Script.Reaches step (p >>= f).run s (f a).run t :=
  (Script.Runs.reaches h).bind _

theorem through_ofScript {step : I.Step σ} {during : σ → Prop} {after : Outcome α → σ → Prop}
    {script : Script I α} {s : σ} (h : script.Through step during (fun a => after (.ok a)) s) :
    (ofScript script : Procedure I α).Through step during after s :=
  Script.Through.bind h fun _ _ hafter => hafter

end Procedure

end SchemaCodegen
