import SchemaCodegen.Proofs.Output.Leasing
import SchemaCodegen.Proofs.Output.Preservation

/-!
# A crowd of calls

Many calls with requests to one path, carried out in steps that come in any order: a call asks the
machine, leases the lock, waits for it, gives it back, and at any moment its caller may go away. A
job that holds the lock goes on without its caller and is told so when it asks. `Step` is what the
scripts of the calls do, question by question; how far each call has come is told by its `Stage`,
and `Move` is what happens to the stages (`exists_move`).
-/

namespace SchemaCodegen.Output

/-- What may happen on a machine that writes a path, in a process that stays in one directory: only
the caller who has gone away is told to have done so. -/
def attended (path base : Path) (isAbandoned : Bool) : machine.Step Disk
  | .workingDirectory, d, reply, d' => reply = base ∧ d' = d
  | .isCancelled, d, reply, d' => reply = isAbandoned ∧ d' = d
  | call, d, reply, d' => faulty path true call d reply d'

theorem faulty_of_attended {path base : Path} {isAbandoned : Bool} {call : Machine.Call}
    {d d' : Disk} {reply : Machine.Reply call}
    (h : attended path base isAbandoned call d reply d') : faulty path true call d reply d' := by
  cases call with
  | workingDirectory => exact h.2
  | isCancelled => exact h.2
  | _ => exact h

/-- A call, what it has still to ask, and how it stands to the lock of its path. -/
structure Activity where
  rest : Script writing (Outcome Written)
  standing : Standing
  /-- The caller has gone away. -/
  isAbandoned : Bool

/-- Calls that share a disk and their locks. -/
structure Crowd (α : Type) where
  disk : Disk
  locks : Locks
  members : List α
  /-- The calls that have obtained the lock, in this order. -/
  turns : List Nat

namespace Crowd

variable {α β : Type}

def map (f : α → β) (c : Crowd α) : Crowd β :=
  ⟨c.disk, c.locks, c.members.map f, c.turns⟩

/-- One member comes further. -/
def set (c : Crowd α) (i : Nat) (member : α) : Crowd α :=
  { c with members := c.members.set i member }

/-- Nobody has asked for anything yet. -/
def start (path : Path) (requests : List Request) (d : Disk) (locks : Locks) : Crowd Activity :=
  ⟨d, locks, requests.map fun request => ⟨(request.task path).run, .apart, false⟩, []⟩

/-- The call has come to an end. -/
def Ended (c : Crowd Activity) (i : Nat) (outcome : Outcome Written) : Prop :=
  ∃ a, c.members[i]? = some a ∧ a.rest = .done outcome

def IsDone (c : Crowd Activity) : Prop :=
  ∀ i < c.members.length, ∃ outcome, c.Ended i outcome

end Crowd

/-- One of the calls goes on by one question, or its caller goes away. A caller who goes away
without the lock takes the call along, and a lease that it has. -/
inductive Step (path base : Path) (c : Crowd Activity) : Crowd Activity → Prop where
  | work {i : Nat} {call : Machine.Call}
      {next : Machine.Reply call → Script writing (Outcome Written)} {standing : Standing}
      {isAbandoned : Bool} {reply : Machine.Reply call} {d : Disk}
      (member : c.members[i]? = some ⟨.ask (.inl call) next, standing, isAbandoned⟩)
      (h : attended path base isAbandoned call c.disk reply d) :
      Step path base c { c.set i ⟨next reply, standing, isAbandoned⟩ with disk := d }
  | lease {i : Nat} {key : Path} {next : Nat → Script writing (Outcome Written)}
      {standing : Standing} {isAbandoned : Bool}
      (member : c.members[i]? = some ⟨.ask (.inr (.lease key)) next, standing, isAbandoned⟩) :
      Step path base c
        { c.set i ⟨next (c.locks.lease key).1, .waiting key (c.locks.lease key).1, isAbandoned⟩ with
          locks := (c.locks.lease key).2 }
  | hold {i n : Nat} {key : Path} {next : Unit → Script writing (Outcome Written)}
      {isAbandoned : Bool}
      (member : c.members[i]? = some ⟨.ask (.inr (.hold n)) next, .waiting key n, isAbandoned⟩)
      (isOpen : c.locks.isOpen (.hold n) = true) :
      Step path base c
        { c.set i ⟨next (), .holding key n, isAbandoned⟩ with
          locks := c.locks.hold n, turns := c.turns ++ [i] }
  | release {i n : Nat} {key : Path} {next : Unit → Script writing (Outcome Written)}
      {isHeld : Bool} {standing : Standing} {isAbandoned : Bool}
      (member : c.members[i]? =
        some ⟨.ask (.inr (.release key n isHeld)) next, standing, isAbandoned⟩) :
      Step path base c
        { c.set i ⟨next (), .apart, isAbandoned⟩ with locks := c.locks.release key n isHeld }
  | turnBack {i : Nat} {call : writing.Call} {next : writing.Reply call → _} {isAbandoned : Bool}
      (member : c.members[i]? = some ⟨.ask call next, .apart, isAbandoned⟩) :
      Step path base c (c.set i ⟨.done (.error (cancelled path)), .apart, true⟩)
  | giveUp {i n : Nat} {key : Path} {rest : Script writing (Outcome Written)} {isAbandoned : Bool}
      (member : c.members[i]? = some ⟨rest, .waiting key n, isAbandoned⟩) :
      Step path base c
        { c.set i ⟨.done (.error (cancelled path)), .apart, true⟩ with
          locks := c.locks.release key n false }
  | abandon {i n : Nat} {key : Path} {rest : Script writing (Outcome Written)} {isAbandoned : Bool}
      (member : c.members[i]? = some ⟨rest, .holding key n, isAbandoned⟩) :
      Step path base c (c.set i ⟨rest, .holding key n, true⟩)

/-- The calls go on step by step; each moment of the crowd is on record, from the first to the
last. -/
inductive Course (path base : Path) (c : Crowd Activity) :
    List (Crowd Activity) → Crowd Activity → Prop where
  | start : Course path base c [c] c
  | step {moments : List (Crowd Activity)} {c' c'' : Crowd Activity}
      (before : Course path base c moments c') (h : Step path base c' c'') :
      Course path base c (moments ++ [c'']) c''

/-! ## Stages -/

/-- How far a call has come. -/
inductive Stage where
  | fresh
  /-- The place that its path is seen from is known. -/
  | located
  | waiting (lock : Nat)
  | holding (lock : Nat) (rest : Script machine (Outcome Written))
  | finished (outcome : Outcome Written)

/-- The rest of a job, and giving back its lock. -/
def serving (key : Path) (lock : Nat) (rest : Script machine (Outcome Written)) :
    Script writing (Outcome Written) := do
  let outcome ← rest.left
  Task.askLocks (.release key lock true)
  return outcome

def leasing (key : Path) (job : Job Written) : Script writing (Outcome Written) :=
  .ask (.inr (.lease key)) fun lock => .ask (.inr (.hold lock)) fun _ => serving key lock job.run

namespace Stage

/-- What a call at this stage has still to ask. -/
def rest (path base : Path) (job : Job Written) : Stage → Script writing (Outcome Written)
  | .fresh => .ask (.inl .workingDirectory) fun reply => leasing (Path.absoluteFrom reply path) job
  | .located => leasing (Path.absoluteFrom base path) job
  | .waiting n => .ask (.inr (.hold n)) fun _ => serving (Path.absoluteFrom base path) n job.run
  | .holding n rest => serving (Path.absoluteFrom base path) n rest
  | .finished outcome => .done outcome

def standing (key : Path) : Stage → Standing
  | .waiting n => .waiting key n
  | .holding n _ => .holding key n
  | _ => .apart

/-- Where a script starts: one that asks nothing is finished. -/
def ofScript : Script writing (Outcome Written) → Stage
  | .done outcome => .finished outcome
  | .ask _ _ => .fresh

/-- The outcome is settled, though the lock may still have to be given back. -/
def outcome? : Stage → Option (Outcome Written)
  | .finished outcome => some outcome
  | .holding _ (.done outcome) => some outcome
  | _ => none

end Stage

/-- A request and how far it has come. -/
structure Progress where
  request : Request
  stage : Stage
  isAbandoned : Bool

def Progress.activity (path base : Path) (p : Progress) : Activity :=
  ⟨p.stage.rest path base (p.request.job path), p.stage.standing (Path.absoluteFrom base path),
    p.isAbandoned⟩

/-- What happens to the stages of calls in a step. -/
inductive Move (path key : Path) (s : Crowd Progress) : Crowd Progress → Prop where
  | locate {i : Nat} {p : Progress} (member : s.members[i]? = some p) (stage : p.stage = .fresh) :
      Move path key s (s.set i { p with stage := .located })
  | lease {i : Nat} {p : Progress} (member : s.members[i]? = some p) (stage : p.stage = .located) :
      Move path key s
        { s.set i { p with stage := .waiting (s.locks.lease key).1 } with
          locks := (s.locks.lease key).2 }
  | hold {i n : Nat} {p : Progress} (member : s.members[i]? = some p)
      (stage : p.stage = .waiting n) (isOpen : s.locks.isOpen (.hold n) = true) :
      Move path key s
        { s.set i { p with stage := .holding n (p.request.job path).run } with
          locks := s.locks.hold n, turns := s.turns ++ [i] }
  | work {i n : Nat} {p : Progress} {call : Machine.Call} {next : Machine.Reply call → _}
      {reply : Machine.Reply call} {d : Disk} (member : s.members[i]? = some p)
      (stage : p.stage = .holding n (.ask call next)) (h : faulty path true call s.disk reply d) :
      Move path key s { s.set i { p with stage := .holding n (next reply) } with disk := d }
  | release {i n : Nat} {p : Progress} {outcome : Outcome Written}
      (member : s.members[i]? = some p) (stage : p.stage = .holding n (.done outcome)) :
      Move path key s
        { s.set i { p with stage := .finished outcome } with locks := s.locks.release key n true }
  | turnBack {i : Nat} {p : Progress} (member : s.members[i]? = some p)
      (stage : p.stage = .fresh ∨ p.stage = .located) :
      Move path key s
        (s.set i { p with stage := .finished (.error (cancelled path)), isAbandoned := true })
  | giveUp {i n : Nat} {p : Progress} (member : s.members[i]? = some p)
      (stage : p.stage = .waiting n) :
      Move path key s
        { s.set i { p with stage := .finished (.error (cancelled path)), isAbandoned := true } with
          locks := s.locks.release key n false }
  | abandon {i : Nat} {p : Progress} (member : s.members[i]? = some p) :
      Move path key s (s.set i { p with isAbandoned := true })

section Moves

variable {path base : Path} {s : Crowd Progress} {c : Crowd Activity}

/-- The scripts of the calls do nothing but go from stage to stage. -/
theorem exists_move (h : Step path base (s.map (Progress.activity path base)) c) :
    ∃ s', Move path (Path.absoluteFrom base path) s s' ∧
      c = s'.map (Progress.activity path base) := by
  have hmember : ∀ {i : Nat} {a : Activity},
      (s.map (Progress.activity path base)).members[i]? = some a →
        ∃ p, s.members[i]? = some p ∧ p.activity path base = a := by
    intro i a h
    simpa [Crowd.map] using h
  cases h with
  | @work i call next standing isAbandoned reply d member h =>
    obtain ⟨⟨request, stage, _⟩, hi, heq⟩ := hmember member
    cases stage with
    | fresh =>
      cases heq
      obtain ⟨rfl, rfl⟩ := h
      refine ⟨_, .locate hi rfl, ?_⟩
      simp only [Crowd.map, Crowd.set, List.map_set]
      rfl
    | holding n rest =>
      cases rest with
      | done outcome => cases heq
      | ask call next =>
        cases heq
        refine ⟨_, .work hi rfl (faulty_of_attended h), ?_⟩
        simp only [Crowd.map, Crowd.set, List.map_set]
        rfl
    | _ => cases heq
  | @lease i key next standing isAbandoned member =>
    obtain ⟨⟨request, stage, _⟩, hi, heq⟩ := hmember member
    cases stage with
    | located =>
      cases heq
      refine ⟨_, .lease hi rfl, ?_⟩
      simp only [Crowd.map, Crowd.set, List.map_set]
      rfl
    | holding n rest => cases rest <;> cases heq
    | _ => cases heq
  | @hold i n key next isAbandoned member isOpen =>
    obtain ⟨⟨request, stage, _⟩, hi, heq⟩ := hmember member
    cases stage with
    | waiting n =>
      cases heq
      refine ⟨_, .hold hi rfl isOpen, ?_⟩
      simp only [Crowd.map, Crowd.set, List.map_set]
      rfl
    | holding n rest => cases rest <;> cases heq
    | _ => cases heq
  | @release i n key next isHeld standing isAbandoned member =>
    obtain ⟨⟨request, stage, _⟩, hi, heq⟩ := hmember member
    cases stage with
    | holding n rest =>
      cases rest with
      | ask call next => cases heq
      | done outcome =>
        cases heq
        refine ⟨_, .release hi rfl, ?_⟩
        simp only [Crowd.map, Crowd.set, List.map_set]
        rfl
    | _ => cases heq
  | @turnBack i call next isAbandoned member =>
    obtain ⟨⟨request, stage, _⟩, hi, heq⟩ := hmember member
    have hstage : stage = .fresh ∨ stage = .located := by
      cases stage with
      | fresh => exact .inl rfl
      | located => exact .inr rfl
      | waiting n => cases heq
      | holding n rest => cases congrArg Activity.standing heq
      | finished outcome => cases heq
    refine ⟨_, .turnBack hi hstage, ?_⟩
    simp only [Crowd.map, Crowd.set, List.map_set]
    rfl
  | @giveUp i n key rest isAbandoned member =>
    obtain ⟨⟨request, stage, _⟩, hi, heq⟩ := hmember member
    cases stage with
    | waiting n =>
      cases heq
      refine ⟨_, .giveUp hi rfl, ?_⟩
      simp only [Crowd.map, Crowd.set, List.map_set]
      rfl
    | _ => cases heq
  | @abandon i n key rest isAbandoned member =>
    obtain ⟨p, hi, heq⟩ := hmember member
    have habandoned : Progress.activity path base { p with isAbandoned := true } =
        ⟨rest, .holding key n, true⟩ :=
      congrArg (fun a : Activity => { a with isAbandoned := true }) heq
    refine ⟨_, .abandon hi, ?_⟩
    simp only [Crowd.map, Crowd.set, List.map_set, habandoned]

/-- A call begins with all that it has to ask. -/
theorem start_eq_map (path base : Path) (requests : List Request) (d : Disk) (locks : Locks) :
    Crowd.start path requests d locks = Crowd.map (Progress.activity path base)
      ⟨d, locks, requests.map fun r => ⟨r, .ofScript (r.task path).run, false⟩, []⟩ := by
  have hactivity : ∀ r : Request, (⟨(r.task path).run, .apart, false⟩ : Activity) =
      Progress.activity path base ⟨r, .ofScript (r.task path).run, false⟩ := by
    intro r
    rcases r.task_cases path with ⟨failure, hrefused⟩ | hlocked
    · rw [hrefused]
      rfl
    · rw [hlocked]
      rfl
  simp only [Crowd.start, Crowd.map, List.map_map, hactivity]
  rfl

/-! ## Runs in a crowd -/

theorem exists_course {c c' : Crowd Activity} (h : Relation.ReflTransGen (Step path base) c c') :
    ∃ moments, Course path base c moments c' := by
  induction h with
  | refl => exact ⟨[c], .start⟩
  | tail _ hstep ih =>
    obtain ⟨moments, hcourse⟩ := ih
    exact ⟨_, hcourse.step hstep⟩

/-- A job that holds its lock may run in a crowd as it does alone. -/
theorem steps_of_runs {rest : Script machine (Outcome Written)} {key : Path} {i n : Nat}
    {isAbandoned : Bool} {outcome : Outcome Written} {d : Disk}
    (member : c.members[i]? = some ⟨serving key n rest, .holding key n, isAbandoned⟩)
    (run : rest.Runs (attended path base isAbandoned) c.disk outcome d) :
    Relation.ReflTransGen (Step path base) c
      { c.set i ⟨serving key n (.done outcome), .holding key n, isAbandoned⟩ with disk := d } := by
  induction rest generalizing c with
  | done result =>
    obtain ⟨rfl, rfl⟩ := run
    obtain ⟨hlt, hmember⟩ := List.getElem?_eq_some_iff.1 member
    have hsame : c.set i ⟨serving key n (.done result), .holding key n, isAbandoned⟩ = c := by
      rw [Crowd.set, ← hmember, List.set_getElem_self]
    rw [hsame]
  | ask call next ih =>
    obtain ⟨reply, t, hstep, hrest⟩ := run
    have hlt : i < c.members.length := (List.getElem?_eq_some_iff.1 member).1
    have hwork : Step path base c
        { c.set i ⟨serving key n (next reply), .holding key n, isAbandoned⟩ with disk := t } :=
      .work member hstep
    have hmember : ({ c.set i ⟨serving key n (next reply), .holding key n, isAbandoned⟩ with
        disk := t } : Crowd Activity).members[i]? =
        some ⟨serving key n (next reply), .holding key n, isAbandoned⟩ :=
      List.getElem?_set_self hlt
    have hsteps := ih reply hmember hrest
    simp only [Crowd.set, List.set_set] at hsteps
    exact .head hwork hsteps

end Moves

end SchemaCodegen.Output
