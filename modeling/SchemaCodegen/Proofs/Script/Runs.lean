import SchemaCodegen.Machine

/-!
# Runs of scripts

How a script may run where its questions can be answered in more than one way: `Runs step m s a s'`
tells that `m`, started in `s`, may end in `s'` with `a` when every question is answered as `step`
allows. What every answer keeps, every run keeps (`Runs.keeps`), and for a script that asks certain
questions only (`Asks`) the answers to these are enough. The runs of a sequence, of a procedure that
may fail, and of a part of a larger interface come down to the runs of their parts.
-/

namespace SchemaCodegen

/-- How the questions of an interface may be answered from a state, and which states may follow. -/
abbrev Interface.Step (I : Interface) (σ : Type) :=
  (call : I.Call) → σ → I.Reply call → σ → Prop

namespace Interface.Step

variable {I J : Interface} {σ : Type}

/-- The questions of two interfaces, answered from one state. -/
def sum (left : I.Step σ) (right : J.Step σ) : (I.sum J).Step σ
  | .inl call => left call
  | .inr call => right call

/-- Every question has the one answer that a function gives. -/
def ofAnswer (answer : (call : I.Call) → σ → I.Reply call × σ) : I.Step σ :=
  fun call s reply s' => answer call s = (reply, s')

end Interface.Step

namespace Script

variable {I J : Interface} {σ α β : Type}

def Runs (step : I.Step σ) : Script I α → σ → α → σ → Prop
  | .done b, s, a, s' => b = a ∧ s = s'
  | .ask call next, s, a, s' => ∃ reply t, step call s reply t ∧ Runs step (next reply) t a s'

variable {step : I.Step σ} {s s' : σ} {a : α} {b : β}

@[simp] theorem runs_done {c : α} : Runs step (.done c) s a s' ↔ c = a ∧ s = s' := Iff.rfl

@[simp] theorem runs_pure {c : α} : Runs step (pure c) s a s' ↔ c = a ∧ s = s' := Iff.rfl

@[simp] theorem runs_call {call : I.Call} {reply : I.Reply call} :
    Runs step (Script.call call) s reply s' ↔ step call s reply s' := by
  constructor
  · rintro ⟨r, t, h, rfl, rfl⟩
    exact h
  · intro h
    exact ⟨reply, s', h, rfl, rfl⟩

theorem runs_ask {call : I.Call} {next : I.Reply call → Script I α} :
    Runs step (.ask call next) s a s' ↔
      ∃ reply t, step call s reply t ∧ Runs step (next reply) t a s' := Iff.rfl

/-- A sequence runs as its parts do, one after the other. -/
theorem runs_bind {m : Script I α} {f : α → Script I β} :
    Runs step (m >>= f) s b s' ↔ ∃ a t, Runs step m s a t ∧ Runs step (f a) t b s' := by
  change Runs step (m.bind f) s b s' ↔ _
  induction m generalizing s with
  | done c =>
    constructor
    · intro h
      exact ⟨c, s, ⟨rfl, rfl⟩, h⟩
    · rintro ⟨a, t, ⟨rfl, rfl⟩, h⟩
      exact h
  | ask call next ih =>
    constructor
    · rintro ⟨reply, t, hstep, h⟩
      obtain ⟨a, u, hm, hf⟩ := (ih reply).1 h
      exact ⟨a, u, ⟨reply, t, hstep, hm⟩, hf⟩
    · rintro ⟨a, u, ⟨reply, t, hstep, hm⟩, hf⟩
      exact ⟨reply, t, hstep, (ih reply).2 ⟨a, u, hm, hf⟩⟩

/-- What every answer keeps, every run keeps. -/
theorem Runs.keeps {P : σ → σ → Prop} (refl : ∀ s, P s s)
    (trans : ∀ {s t u}, P s t → P t u → P s u)
    (keeps : ∀ call s reply s', step call s reply s' → P s s') {m : Script I α}
    (h : Runs step m s a s') : P s s' := by
  induction m generalizing s with
  | done c =>
    obtain ⟨-, rfl⟩ := h
    exact refl s
  | ask call next ih =>
    obtain ⟨reply, t, hstep, h⟩ := h
    exact trans (keeps call s reply t hstep) (ih reply h)

/-- A machine on which more may happen has the same runs, and more. -/
theorem Runs.mono {step' : I.Step σ} (allows : ∀ call s reply s', step call s reply s' →
    step' call s reply s') {m : Script I α} (h : Runs step m s a s') : Runs step' m s a s' := by
  induction m generalizing s with
  | done c => exact h
  | ask call next ih =>
    obtain ⟨reply, t, hstep, h⟩ := h
    exact ⟨reply, t, allows call s reply t hstep, ih reply h⟩

/-- Where every question has one answer, there is one run. -/
theorem runs_ofAnswer {answer : (call : I.Call) → σ → I.Reply call × σ} {m : Script I α} :
    Runs (.ofAnswer answer) m s a s' ↔ run answer m s = (a, s') := by
  induction m generalizing s with
  | done c => simp [run]
  | ask call next ih =>
    constructor
    · rintro ⟨reply, t, hstep, h⟩
      rw [Interface.Step.ofAnswer] at hstep
      rw [run, hstep]
      exact (ih reply).1 h
    · intro h
      exact ⟨_, _, rfl, (ih _).2 h⟩

/-- A run by answers that are allowed is a run, as long as what makes them so is kept. -/
theorem runs_run {answer : (call : I.Call) → σ → I.Reply call × σ} {P : σ → Prop}
    (allowed : ∀ call s, P s → step call s (answer call s).1 (answer call s).2 ∧
      P (answer call s).2) {m : Script I α} (hs : P s) :
    Runs step m s (run answer m s).1 (run answer m s).2 ∧ P (run answer m s).2 := by
  induction m generalizing s with
  | done c => exact ⟨⟨rfl, rfl⟩, hs⟩
  | ask call next ih =>
    obtain ⟨hstep, hkept⟩ := allowed call s hs
    obtain ⟨hrest, hend⟩ := ih _ hkept
    exact ⟨⟨_, _, hstep, hrest⟩, hend⟩

/-- Where every question has an answer, there is a run, as long as what makes it so is kept. -/
theorem exists_runs {P : σ → Prop} (answers : ∀ call s, P s → ∃ reply s', step call s reply s')
    (stays : ∀ {call s reply s'}, step call s reply s' → P s → P s') (m : Script I α) (hs : P s) :
    ∃ a s', Runs step m s a s' := by
  induction m generalizing s with
  | done c => exact ⟨c, s, rfl, rfl⟩
  | ask call next ih =>
    obtain ⟨reply, t, hstep⟩ := answers call s hs
    obtain ⟨a, s', hrest⟩ := ih reply (stays hstep hs)
    exact ⟨a, s', reply, t, hstep, hrest⟩

theorem runs_interpret {t : J.Step σ} {f : (call : I.Call) → Script J (I.Reply call)}
    {m : Script I α} :
    Runs t (m.interpret f) s a s' ↔
      Runs (fun call s reply s' => Runs t (f call) s reply s') m s a s' := by
  induction m generalizing s with
  | done c => rfl
  | ask call next ih =>
    change Runs t (f call >>= fun reply => (next reply).interpret f) s a s' ↔ _
    rw [runs_bind, runs_ask]
    simp only [ih]

theorem runs_congr {step' : I.Step σ} (h : ∀ call s reply s', step call s reply s' ↔
    step' call s reply s') {m : Script I α} : Runs step m s a s' ↔ Runs step' m s a s' := by
  induction m generalizing s with
  | done c => rfl
  | ask call next ih => simp only [runs_ask, h, ih]

/-- A script as one of a larger interface runs as before. -/
theorem runs_left {t : (I.sum J).Step σ} {m : Script I α} :
    Runs t m.left s a s' ↔ Runs (fun call => t (.inl call)) m s a s' :=
  runs_interpret.trans (runs_congr fun call _ _ _ => @runs_call (I.sum J) _ _ _ _ (.inl call) _)

theorem runs_right {t : (I.sum J).Step σ} {m : Script J α} :
    Runs t m.right s a s' ↔ Runs (fun call => t (.inr call)) m s a s' :=
  runs_interpret.trans (runs_congr fun call _ _ _ => @runs_call (I.sum J) _ _ _ _ (.inr call) _)

/-! ## What may be asked -/

/-- Everything that a script may ask is allowed. -/
def Asks (allowed : I.Call → Prop) : Script I α → Prop
  | .done _ => True
  | .ask call next => allowed call ∧ ∀ reply, Asks allowed (next reply)

namespace Asks

variable {allowed allowed' : I.Call → Prop} {m : Script I α}

@[simp] theorem pure (c : α) : (Pure.pure c : Script I α).Asks allowed := trivial

theorem call {call : I.Call} (h : allowed call) : (Script.call call).Asks allowed :=
  ⟨h, fun _ => trivial⟩

theorem bind {f : α → Script I β} (hm : m.Asks allowed) (hf : ∀ a, (f a).Asks allowed) :
    (m >>= f).Asks allowed := by
  change (m.bind f).Asks allowed
  induction m with
  | done c => exact hf c
  | ask call next ih => exact ⟨hm.1, fun reply => ih reply (hm.2 reply)⟩

theorem interpret {f : (call : I.Call) → Script J (I.Reply call)} {allowed : J.Call → Prop}
    (h : m.Asks fun call => (f call).Asks allowed) : (m.interpret f).Asks allowed := by
  induction m with
  | done c => trivial
  | ask call next ih => exact bind h.1 fun reply => ih reply (h.2 reply)

theorem of_forall (h : ∀ call, allowed call) (m : Script I α) : m.Asks allowed := by
  induction m with
  | done c => trivial
  | ask call next ih => exact ⟨h call, ih⟩

theorem mono (h : m.Asks allowed) (himp : ∀ call, allowed call → allowed' call) :
    m.Asks allowed' := by
  induction m with
  | done c => trivial
  | ask call next ih => exact ⟨himp call h.1, fun reply => ih reply (h.2 reply)⟩

theorem left {allowed : (I.sum J).Call → Prop} (h : m.Asks fun call => allowed (.inl call)) :
    (Script.left m : Script (I.sum J) α).Asks allowed :=
  interpret (h.mono fun _ hcall => ⟨hcall, fun _ => trivial⟩)

theorem right {m : Script J α} {allowed : (I.sum J).Call → Prop}
    (h : m.Asks fun call => allowed (.inr call)) :
    (Script.right m : Script (I.sum J) α).Asks allowed :=
  interpret (h.mono fun _ hcall => ⟨hcall, fun _ => trivial⟩)

/-- What every answer to an allowed question keeps, every run keeps. -/
theorem keeps {P : σ → σ → Prop} (h : m.Asks allowed) (refl : ∀ s, P s s)
    (trans : ∀ {s t u}, P s t → P t u → P s u)
    (keeps : ∀ call s reply s', allowed call → step call s reply s' → P s s')
    (hruns : Runs step m s a s') : P s s' := by
  induction m generalizing s with
  | done c =>
    obtain ⟨-, rfl⟩ := hruns
    exact refl s
  | ask call next ih =>
    obtain ⟨reply, t, hstep, hrest⟩ := hruns
    exact trans (keeps call s reply t h.1 hstep) (ih reply (h.2 reply) hrest)

/-- A run carries over to states of another kind if the answers do, and what makes them do so is
kept. -/
theorem map {τ : Type} {step' : I.Step τ} {f : σ → τ} {P : σ → Prop} (h : m.Asks allowed)
    (maps : ∀ call s reply s', allowed call → step call s reply s' → P s →
      step' call (f s) reply (f s') ∧ P s') (hruns : Runs step m s a s') (hs : P s) :
    Runs step' m (f s) a (f s') ∧ P s' := by
  induction m generalizing s with
  | done c =>
    obtain ⟨rfl, rfl⟩ := hruns
    exact ⟨⟨rfl, rfl⟩, hs⟩
  | ask call next ih =>
    obtain ⟨reply, t, hstep, hrest⟩ := hruns
    obtain ⟨hanswer, ht⟩ := maps call s reply t h.1 hstep hs
    obtain ⟨hgoes, hend⟩ := ih reply (h.2 reply) hrest ht
    exact ⟨⟨reply, f t, hanswer, hgoes⟩, hend⟩

/-- Where what is asked has one answer at most, there is one run at most. -/
theorem unique {b : α} {s'' : σ} (h : m.Asks allowed)
    (one : ∀ call s reply t reply' t', allowed call → step call s reply t →
      step call s reply' t' → reply = reply' ∧ t = t') (hruns : Runs step m s a s')
    (hruns' : Runs step m s b s'') : a = b ∧ s' = s'' := by
  induction m generalizing s with
  | done c => exact ⟨hruns.1.symm.trans hruns'.1, hruns.2.symm.trans hruns'.2⟩
  | ask call next ih =>
    obtain ⟨reply, t, hstep, hrest⟩ := hruns
    obtain ⟨reply', t', hstep', hrest'⟩ := hruns'
    obtain ⟨rfl, rfl⟩ := one call s reply t reply' t' h.1 hstep hstep'
    exact ih reply (h.2 reply) hrest hrest'

end Asks

theorem Runs.map {τ : Type} {step' : I.Step τ} {f : σ → τ} {P : σ → Prop}
    (maps : ∀ call s reply s', step call s reply s' → P s →
      step' call (f s) reply (f s') ∧ P s') {m : Script I α} (h : Runs step m s a s') (hs : P s) :
    Runs step' m (f s) a (f s') ∧ P s' :=
  (Asks.of_forall (fun _ => trivial) m : m.Asks fun _ => True).map
    (fun call s reply s' _ => maps call s reply s') h hs

end Script

/-! ## Procedures -/

namespace Procedure

variable {I J : Interface} {σ α β : Type}

/-- The runs of a procedure, those that end in a failure included. -/
def Runs (step : I.Step σ) (p : Procedure I α) (s : σ) (outcome : Outcome α) (s' : σ) : Prop :=
  Script.Runs step p.run s outcome s'

variable {step : I.Step σ} {s s' : σ} {a : α} {b : β} {outcome : Outcome α} {failure : Failure}

@[simp] theorem runs_mk {script : Script I (Outcome α)} :
    Runs step (ExceptT.mk script) s outcome s' ↔ script.Runs step s outcome s' := Iff.rfl

@[simp] theorem runs_pure {c : α} :
    Runs step (pure c) s outcome s' ↔ Except.ok c = outcome ∧ s = s' := Iff.rfl

@[simp] theorem runs_throw :
    Runs step (throw failure : Procedure I α) s outcome s' ↔
      Except.error failure = outcome ∧ s = s' := Iff.rfl

@[simp] theorem runs_ofOutcome {given : Outcome α} :
    Runs step (ofOutcome given : Procedure I α) s outcome s' ↔ given = outcome ∧ s = s' := Iff.rfl

@[simp] theorem runs_ofScript_ok {script : Script I α} :
    Runs step (ofScript script) s (.ok a) s' ↔ script.Runs step s a s' := by
  change Script.Runs step (script >>= fun c => pure (Except.ok c)) s _ s' ↔ _
  rw [Script.runs_bind]
  simp

@[simp] theorem not_runs_ofScript_error {script : Script I α} :
    ¬ Runs step (ofScript script) s (.error failure) s' := by
  change ¬ Script.Runs step (script >>= fun c => pure (Except.ok c)) s _ s'
  rw [Script.runs_bind]
  simp

/-- A sequence succeeds where its parts succeed, one after the other. -/
theorem runs_bind_ok {p : Procedure I α} {f : α → Procedure I β} :
    Runs step (p >>= f) s (.ok b) s' ↔
      ∃ a t, Runs step p s (.ok a) t ∧ Runs step (f a) t (.ok b) s' := by
  change Script.Runs step (p.run >>= ExceptT.bindCont f) s _ s' ↔ _
  rw [Script.runs_bind]
  constructor
  · rintro ⟨outcome, t, hp, hf⟩
    cases outcome with
    | ok a => exact ⟨a, t, hp, hf⟩
    | error failure => simp [ExceptT.bindCont] at hf
  · rintro ⟨a, t, hp, hf⟩
    exact ⟨.ok a, t, hp, hf⟩

/-- A sequence fails where its first part fails, or where the rest does. -/
theorem runs_bind_error {p : Procedure I α} {f : α → Procedure I β} :
    Runs step (p >>= f) s (.error failure) s' ↔
      Runs step p s (.error failure) s' ∨
        ∃ a t, Runs step p s (.ok a) t ∧ Runs step (f a) t (.error failure) s' := by
  change Script.Runs step (p.run >>= ExceptT.bindCont f) s _ s' ↔ _
  rw [Script.runs_bind]
  constructor
  · rintro ⟨outcome, t, hp, hf⟩
    cases outcome with
    | ok a => exact .inr ⟨a, t, hp, hf⟩
    | error e =>
      simp only [ExceptT.bindCont, Script.runs_pure, Except.error.injEq] at hf
      obtain ⟨rfl, rfl⟩ := hf
      exact .inl hp
  · rintro (hp | ⟨a, t, hp, hf⟩)
    · exact ⟨.error failure, s', hp, by simp [ExceptT.bindCont]⟩
    · exact ⟨.ok a, t, hp, hf⟩

/-- A sequence ends where its first part fails, or as the rest does. -/
theorem runs_bind {p : Procedure I α} {f : α → Procedure I β} {outcome : Outcome β} :
    Runs step (p >>= f) s outcome s' ↔
      (∃ failure, outcome = .error failure ∧ Runs step p s (.error failure) s') ∨
        ∃ a t, Runs step p s (.ok a) t ∧ Runs step (f a) t outcome s' := by
  cases outcome with
  | ok b =>
    rw [runs_bind_ok]
    simp
  | error failure =>
    rw [runs_bind_error]
    simp

/-- Where no part fails or changes anything, a list of parts runs as each of them does. -/
theorem runs_mapM_ok_iff {f : α → Procedure I β} {P : α → Prop} {g : α → β} {as : List α}
    {bs : List β} (h : ∀ a ∈ as, ∀ b s', Runs step (f a) s (.ok b) s' ↔ P a ∧ b = g a ∧ s' = s) :
    Runs step (as.mapM f) s (.ok bs) s' ↔ (∀ a ∈ as, P a) ∧ bs = as.map g ∧ s' = s := by
  induction as generalizing bs s' with
  | nil =>
    rw [List.mapM_nil, runs_pure, Except.ok.injEq]
    simp [eq_comm]
  | cons a as ih =>
    have hrest : ∀ {bs s'}, Runs step (as.mapM f) s (.ok bs) s' ↔
        (∀ a ∈ as, P a) ∧ bs = as.map g ∧ s' = s :=
      ih fun a' ha' => h a' (List.mem_cons_of_mem _ ha')
    rw [List.mapM_cons, runs_bind_ok]
    constructor
    · rintro ⟨b, t, hb, hbs⟩
      obtain ⟨hP, rfl, rfl⟩ := (h a List.mem_cons_self b t).1 hb
      obtain ⟨bs', t', hbs', hdone⟩ := runs_bind_ok.1 hbs
      obtain ⟨hall, rfl, rfl⟩ := hrest.1 hbs'
      obtain ⟨hcons, rfl⟩ := runs_pure.1 hdone
      cases hcons
      exact ⟨List.forall_mem_cons.2 ⟨hP, hall⟩, rfl, rfl⟩
    · rintro ⟨hall, rfl, rfl⟩
      obtain ⟨hP, hall⟩ := List.forall_mem_cons.1 hall
      exact ⟨_, s', (h a List.mem_cons_self _ _).2 ⟨hP, rfl, rfl⟩,
        runs_bind_ok.2 ⟨_, s', hrest.2 ⟨hall, rfl, rfl⟩, rfl, rfl⟩⟩

/-- What every part of a list of parts leaves to be known of its result, the list leaves. -/
theorem Runs.map_mapM {γ : Type} {f : α → Procedure I β} {g : β → γ} {k : α → γ} {as : List α}
    {bs : List β} (known : ∀ a s b s', Runs step (f a) s (.ok b) s' → g b = k a)
    (h : Runs step (as.mapM f) s (.ok bs) s') : bs.map g = as.map k := by
  induction as generalizing s s' bs with
  | nil =>
    rw [List.mapM_nil] at h
    cases (runs_pure.1 h).1
    rfl
  | cons a as ih =>
    rw [List.mapM_cons] at h
    obtain ⟨b, t, hb, h⟩ := runs_bind_ok.1 h
    obtain ⟨bs', t', hbs, h⟩ := runs_bind_ok.1 h
    cases (runs_pure.1 h).1
    rw [List.map_cons, List.map_cons, known a s b t hb, ih hbs]

theorem Runs.mono {step' : I.Step σ} (allows : ∀ call s reply s', step call s reply s' →
    step' call s reply s') {p : Procedure I α} (h : Runs step p s outcome s') :
    Runs step' p s outcome s' :=
  Script.Runs.mono allows h

/-- Whatever the procedure fails of, from any state, is allowed. -/
def FailsOnly (step : I.Step σ) (allowed : Failure → Prop) (p : Procedure I α) : Prop :=
  ∀ s failure s', Runs step p s (.error failure) s' → allowed failure

namespace FailsOnly

variable {allowed : Failure → Prop}

theorem pure (c : α) : FailsOnly step allowed (Pure.pure c : Procedure I α) := by
  intro s failure s' h
  cases (runs_pure.1 h).1

theorem throw (h : allowed failure) :
    FailsOnly step allowed (MonadExcept.throw failure : Procedure I α) := by
  intro s failure' s' hruns
  cases (runs_throw.1 hruns).1
  exact h

theorem ofScript (script : Script I α) : FailsOnly step allowed (Procedure.ofScript script) :=
  fun _ _ _ h => absurd h not_runs_ofScript_error

theorem bind {p : Procedure I α} {f : α → Procedure I β} (hp : FailsOnly step allowed p)
    (hf : ∀ a, FailsOnly step allowed (f a)) : FailsOnly step allowed (p >>= f) := by
  intro s failure s' h
  rcases runs_bind_error.1 h with hfail | ⟨a, t, -, hfail⟩
  · exact hp s failure s' hfail
  · exact hf a t failure s' hfail

theorem mapM {f : α → Procedure I β} (hf : ∀ a, FailsOnly step allowed (f a)) (as : List α) :
    FailsOnly step allowed (as.mapM f) := by
  induction as with
  | nil => exact .pure _
  | cons a as ih =>
    rw [List.mapM_cons]
    exact (hf a).bind fun _ => ih.bind fun _ => .pure _

end FailsOnly

/-- The procedure cannot fail from a state. -/
def Succeeds (step : I.Step σ) (p : Procedure I α) (s : σ) : Prop :=
  ∀ failure s', ¬ Runs step p s (.error failure) s'

theorem Succeeds.pure (c : α) : Succeeds step (Pure.pure c) s := by
  rintro failure s' ⟨houtcome, -⟩
  cases houtcome

theorem Succeeds.ofScript (script : Script I α) : Succeeds step (ofScript script) s :=
  fun _ _ => not_runs_ofScript_error

theorem Succeeds.bind {p : Procedure I α} {f : α → Procedure I β} (hp : Succeeds step p s)
    (hf : ∀ a t, Runs step p s (.ok a) t → Succeeds step (f a) t) :
    Succeeds step (p >>= f) s := by
  intro failure s' h
  rcases runs_bind_error.1 h with hfail | ⟨a, t, ha, hfail⟩
  · exact hp failure s' hfail
  · exact hf a t ha failure s' hfail

theorem runs_left {t : (I.sum J).Step σ} {p : Procedure I α} :
    Runs t (left p : Procedure (I.sum J) α) s outcome s' ↔
      Runs (fun call => t (.inl call)) p s outcome s' :=
  Script.runs_left

theorem Succeeds.left {t : (I.sum J).Step σ} {p : Procedure I α}
    (h : Succeeds (fun call => t (.inl call)) p s) :
    Succeeds t (Procedure.left p : Procedure (I.sum J) α) s :=
  fun failure s' hruns => h failure s' (runs_left.1 hruns)

/-- Everything that a procedure may ask is allowed. -/
def Asks (allowed : I.Call → Prop) (p : Procedure I α) : Prop :=
  Script.Asks allowed p.run

namespace Asks

variable {allowed : I.Call → Prop}

theorem pure (c : α) : (Pure.pure c : Procedure I α).Asks allowed := trivial

theorem throw (failure : Failure) :
    (MonadExcept.throw failure : Procedure I α).Asks allowed := trivial

theorem ofScript {script : Script I α} (h : script.Asks allowed) :
    (Procedure.ofScript script).Asks allowed :=
  Script.Asks.bind h fun _ => .pure _

theorem bind {p : Procedure I α} {f : α → Procedure I β} (hp : p.Asks allowed)
    (hf : ∀ a, (f a).Asks allowed) : (p >>= f).Asks allowed := by
  refine Script.Asks.bind hp fun outcome => ?_
  cases outcome with
  | error failure => trivial
  | ok a => exact hf a

theorem mono {allowed' : I.Call → Prop} {p : Procedure I α} (h : p.Asks allowed)
    (himp : ∀ call, allowed call → allowed' call) : p.Asks allowed' :=
  Script.Asks.mono h himp

theorem left {p : Procedure I α} {allowed : (I.sum J).Call → Prop}
    (h : p.Asks fun call => allowed (.inl call)) :
    (Procedure.left p : Procedure (I.sum J) α).Asks allowed :=
  Script.Asks.left h

/-- What every answer to an allowed question keeps, every run keeps. -/
theorem keeps {P : σ → σ → Prop} {p : Procedure I α} (h : p.Asks allowed) (refl : ∀ s, P s s)
    (trans : ∀ {s t u}, P s t → P t u → P s u)
    (keeps : ∀ call s reply s', allowed call → step call s reply s' → P s s')
    (hruns : Runs step p s outcome s') : P s s' :=
  Script.Asks.keeps h refl trans keeps hruns

end Asks

end Procedure

end SchemaCodegen
