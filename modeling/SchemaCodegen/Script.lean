/-!
# Scripts

A program that acts on its surroundings is a script: either it is done, or it asks for something
and goes on with the answer. What may be asked, and what is answered, is an interface. A script
says nothing of how questions are answered, so the same script runs on a disk that works, on one
where some call fails, or interleaved with others.
-/

namespace SchemaCodegen

/-- The questions that a script may ask, and the type of the answer to each. -/
structure Interface where
  Call : Type
  Reply : Call → Type

/-- The questions of two interfaces. -/
def Interface.sum (I J : Interface) : Interface where
  Call := I.Call ⊕ J.Call
  Reply
    | .inl call => I.Reply call
    | .inr call => J.Reply call

inductive Script (I : Interface) (α : Type) where
  | done (value : α)
  | ask (call : I.Call) (next : I.Reply call → Script I α)

namespace Script

variable {I J : Interface} {α β σ : Type}

def bind : Script I α → (α → Script I β) → Script I β
  | .done a, f => f a
  | .ask call next, f => .ask call fun reply => bind (next reply) f

instance : Monad (Script I) where
  pure := .done
  bind := bind

/-- The script that asks one question. -/
def call (c : I.Call) : Script I (I.Reply c) :=
  .ask c .done

/-- Runs a script where each question is answered from a state that the answer may change. -/
def run (answer : (c : I.Call) → σ → I.Reply c × σ) : Script I α → σ → α × σ
  | .done a, s => (a, s)
  | .ask c next, s =>
    let (reply, s) := answer c s
    run answer (next reply) s

/-- The script in which each question is replaced by a script of another interface. -/
def interpret (f : (c : I.Call) → Script J (I.Reply c)) : Script I α → Script J α
  | .done a => .done a
  | .ask c next => bind (f c) fun reply => interpret f (next reply)

/-- A script as one of a larger interface. -/
def left : Script I α → Script (I.sum J) α :=
  interpret fun c => .ask (I := I.sum J) (.inl c) .done

def right : Script J α → Script (I.sum J) α :=
  interpret fun c => .ask (I := I.sum J) (.inr c) .done

/-- Answers the questions of two interfaces, each from its own half of the state. -/
def answerSum {τ : Type} (answerLeft : (c : I.Call) → σ → I.Reply c × σ)
    (answerRight : (c : J.Call) → τ → J.Reply c × τ) :
    (c : (I.sum J).Call) → σ × τ → (I.sum J).Reply c × (σ × τ)
  | .inl c, (s, t) =>
    let (reply, s) := answerLeft c s
    (reply, s, t)
  | .inr c, (s, t) =>
    let (reply, t) := answerRight c t
    (reply, s, t)

/-- Answers the questions of two interfaces from one state. -/
def answerEither (answerLeft : (c : I.Call) → σ → I.Reply c × σ)
    (answerRight : (c : J.Call) → σ → J.Reply c × σ) :
    (c : (I.sum J).Call) → σ → (I.sum J).Reply c × σ
  | .inl c, s => answerLeft c s
  | .inr c, s => answerRight c s

theorem bind_done (m : Script I α) : bind m .done = m := by
  induction m with
  | done a => rfl
  | ask c next ih => simp only [bind]; congr; funext r; exact ih r

theorem bind_assoc {γ : Type} (m : Script I α) (f : α → Script I β) (g : β → Script I γ) :
    bind (bind m f) g = bind m fun a => bind (f a) g := by
  induction m with
  | done a => rfl
  | ask c next ih => simp only [bind]; congr; funext r; exact ih r

instance : LawfulMonad (Script I) :=
  LawfulMonad.mk' _ bind_done (fun _ _ => rfl) bind_assoc

/-- Running two scripts in sequence is running one after the other. -/
theorem run_bind (answer : (c : I.Call) → σ → I.Reply c × σ) (m : Script I α)
    (f : α → Script I β) (s : σ) :
    run answer (bind m f) s = run answer (f (run answer m s).1) (run answer m s).2 := by
  induction m generalizing s with
  | done a => rfl
  | ask c next ih => simp only [bind, run]; exact ih _ _

end Script

end SchemaCodegen
