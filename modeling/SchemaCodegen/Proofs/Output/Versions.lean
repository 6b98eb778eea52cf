import Mathlib.Data.List.Nodup
import SchemaCodegen.Proofs.Output.Crowd
import SchemaCodegen.Proofs.Output.Protection
import SchemaCodegen.Proofs.Output.Turns

/-!
# Every version is kept

Calls to one path run into each other, fail or are given up, and still nothing that was at the
path is lost. At any moment of a crowd the calls that are through have led to the disk of an
account, and at most one call is on its way from there, the one that holds the lock (`Orderly`).
A step either changes nothing of this or carries that call through, as a turn of its own
(`orderly_of_move`). So when all are done the files are those of some calls one after the other
(`Serialized`), and that of the call on its way is never seen before its time
(`Underway.entry_of_names`).
-/

namespace SchemaCodegen.Output

open Disk (Extends Grown Location)

/-! ## Files beside the path -/

section Beside

variable {path p : Path} {d e : Disk} {x y z : Location} {content : ByteArray}

theorem ne_of_names_withSuffix {suffix : String} (hsuffix : Path.IsSegment suffix)
    (hx : d.Names (path.withSuffix suffix) x) (hy : d.Names path y) : x ≠ y := by
  obtain ⟨directory, name, hlocate, -, rfl⟩ := hx
  obtain ⟨directory', name', hlocate', -, rfl⟩ := hy
  obtain ⟨last, hpath, hpathSuffix⟩ := Path.getLast?_segments_withSuffix path hsuffix
  obtain ⟨hname, -⟩ := Disk.of_locate hlocate
  obtain ⟨hname', -, -, hopen⟩ := Disk.of_locate hlocate'
  have hlast : (last != "") = true := by
    rw [hpath] at hopen
    simpa using hopen.symm
  have hlonger : (last ++ "." ++ suffix != "") = true := by simp [bne_iff_ne]
  rw [getLast?_filter_of_pos hpathSuffix hlonger, Option.some.injEq] at hname
  rw [getLast?_filter_of_pos hpath hlast, Option.some.injEq] at hname'
  intro heq
  obtain ⟨-, hsame⟩ := List.append_inj' heq rfl
  cases hsame
  have hlength := congrArg String.length (hname.trans hname'.symm)
  have hpoint : ".".length = 1 := rfl
  simp only [String.length_append] at hlength
  omega

theorem ne_of_names_beside (h : Beside path p) (hx : d.Names p x) (hy : d.Names path y) :
    x ≠ y := by
  rcases h.temporary_or_suffix with ⟨id, htemporary⟩ | ⟨suffix, hsuffix, rfl⟩
  · rw [htemporary] at hx
    exact ne_of_names_temporaryPath hx hy
  · exact ne_of_names_withSuffix hsuffix.isSegment hx hy

/-- Until the temporary file is moved, what is at the path is what was there before. -/
theorem Underway.entry_of_names (h : Underway path d e) (hz : e.Names path z)
    (hcontent : e.entry? z = some (.file content)) : d.entry? z = some (.file content) := by
  obtain ⟨between, hgrown, hleaves⟩ := h
  rcases hleaves.entry z with hsame | ⟨-, p, -, hp, hnames, -⟩
  · rw [hsame] at hcontent
    exact hgrown.file_iff.1 hcontent
  · exact absurd rfl (ne_of_names_beside hp hnames (hz.mono hleaves.ofExtends))

end Beside

/-! ## Order in a crowd -/

/-- The lock is still ahead. -/
def Stage.isAhead : Stage → Bool
  | .holding _ _ | .finished _ => false
  | _ => true

/-- How far the call that holds the lock has come, in the place that the finished ones have led
to. A job that has nothing more to ask is one of the finished. -/
inductive Served (path : Path) (s : Crowd Progress) (a : Account) : Option Nat → Prop where
  | idle (disk : s.disk = a.disk) (order : (a.effects.map (·.call)).Sublist s.turns) :
      Served path s a none
  | settled {i n : Nat} {p : Progress} {outcome : Outcome Written}
      (member : s.members[i]? = some p) (stage : p.stage = .holding n (.done outcome))
      (disk : s.disk = a.disk) (order : (a.effects.map (·.call)).Sublist s.turns) :
      Served path s a (some i)
  | busy {i n : Nat} {p : Progress} {call : Machine.Call} {next : Machine.Reply call → _}
      {earlier : List Nat} (member : s.members[i]? = some p)
      (stage : p.stage = .holding n (.ask call next)) (turns : s.turns = earlier ++ [i])
      (order : (a.effects.map (·.call)).Sublist earlier)
      (reaches : (p.request.job path).run.Reaches (faulty path true) a.disk (.ask call next)
        s.disk) :
      Served path s a (some i)

/-- A call and the account agree on whether it took effect. -/
structure Fair (path : Path) (turns : List Nat) (effects : List Effect) (i : Nat) (p : Progress) :
    Prop where
  admitted : p.stage.outcome? = none → p.request.task path = Task.locked path (p.request.job path)
  ahead : p.stage.isAhead = true → i ∉ turns
  effect : ∀ written, (∃ effect ∈ effects, effect.call = i ∧ effect.written = written) ↔
    p.stage.outcome? = some (.ok written)

/-- The calls take turns, and the account tells what they have come to. -/
structure Orderly (path key : Path) (requests : List Request) (s : Crowd Progress) (a : Account)
    (holder? : Option Nat) : Prop where
  asked : s.members.map (·.request) = requests
  guarded : Guarded key s.locks (s.members.map (·.stage.standing key)) holder?
  nodup : s.turns.Nodup
  fair : ∀ i p, s.members[i]? = some p → Fair path s.turns a.effects i p
  served : Served path s a holder?

section Order

variable {path key base : Path} {requests : List Request} {s s' : Crowd Progress} {a a' : Account}
  {holder? : Option Nat} {i n : Nat} {p p' : Progress} {locks' : Locks}

theorem map_set_of_eq {α β : Type} {f : α → β} {l : List α} {x y : α} (hi : l[i]? = some x)
    (hf : f y = f x) : (l.set i y).map f = l.map f := by
  obtain ⟨hlt, rfl⟩ := List.getElem?_eq_some_iff.1 hi
  have hlt' : i < (l.map f).length := by simpa using hlt
  have hx : (l.map f)[i] = f l[i] := List.getElem_map f
  rw [List.map_set, hf, ← hx, List.set_getElem_self]

/-- What holds of every member still does when one of them comes further. -/
theorem forall_set {α : Type} {l : List α} {y : α} {P Q : Nat → α → Prop}
    (h : ∀ (j : Nat) z, l[j]? = some z → P j z) (others : ∀ j z, j ≠ i → P j z → Q j z)
    (itself : Q i y) : ∀ (j : Nat) z, (l.set i y)[j]? = some z → Q j z := by
  intro j z hj
  rw [List.getElem?_set] at hj
  split at hj
  · next hij =>
    split at hj
    · cases hj
      rw [← hij]
      exact itself
    · cases hj
  · next hij => exact others j z (Ne.symm hij) (h j z hj)

/-- The call that holds the lock has nothing more to ask, or it is on its way. -/
theorem Served.of_holding {rest : Script machine (Outcome Written)}
    (h : Served path s a (some i)) (hi : s.members[i]? = some p)
    (stage : p.stage = .holding n rest) :
    (∃ outcome, rest = .done outcome ∧ s.disk = a.disk ∧
        (a.effects.map (·.call)).Sublist s.turns) ∨
      ∃ call next earlier, rest = .ask call next ∧ s.turns = earlier ++ [i] ∧
        (a.effects.map (·.call)).Sublist earlier ∧
        (p.request.job path).run.Reaches (faulty path true) a.disk rest s.disk := by
  cases h with
  | settled member holding disk order =>
    rw [hi, Option.some.injEq] at member
    subst member
    rw [stage] at holding
    cases holding
    exact .inl ⟨_, rfl, disk, order⟩
  | busy member holding turns order reaches =>
    rw [hi, Option.some.injEq] at member
    subst member
    rw [stage] at holding
    cases holding
    exact .inr ⟨_, _, _, rfl, turns, order, reaches⟩

theorem Served.exists_holding (h : Served path s a (some i)) :
    ∃ p n rest, s.members[i]? = some p ∧ p.stage = .holding n rest := by
  cases h with
  | settled member stage => exact ⟨_, _, _, member, stage⟩
  | busy member stage => exact ⟨_, _, _, member, stage⟩

/-- A step of a call that does not hold the lock, or that goes no further. -/
theorem Served.set (h : Served path s a holder?) (hi : s.members[i]? = some p)
    (hp : holder? ≠ some i ∨ p'.stage = p.stage ∧ p'.request = p.request) :
    Served path { s.set i p' with locks := locks' } a holder? := by
  have hlt : i < s.members.length := (List.getElem?_eq_some_iff.1 hi).1
  -- The holder is another member, or it is at the same stage.
  have hholder : ∀ {j : Nat} {q : Progress}, s.members[j]? = some q → holder? = some j →
      ∃ q', (s.members.set i p')[j]? = some q' ∧ q'.stage = q.stage ∧ q'.request = q.request := by
    intro j q hj hsome
    by_cases hij : i = j
    · subst hij
      rw [hi, Option.some.injEq] at hj
      subst hj
      rcases hp with hne | hsame
      · exact absurd hsome hne
      · exact ⟨p', List.getElem?_set_self hlt, hsame⟩
    · exact ⟨q, by rw [List.getElem?_set_ne hij, hj], rfl, rfl⟩
  cases h with
  | idle disk order => exact .idle disk order
  | settled member stage disk order =>
    obtain ⟨q', hq', hstage, -⟩ := hholder member rfl
    exact .settled hq' (hstage.trans stage) disk order
  | busy member stage turns order reaches =>
    obtain ⟨q', hq', hstage, hrequest⟩ := hholder member rfl
    refine .busy hq' (hstage.trans stage) turns order ?_
    rw [hrequest]
    exact reaches

/-- A step that settles nothing. -/
theorem Orderly.set (h : Orderly path key requests s a holder?) (hi : s.members[i]? = some p)
    {holder?' : Option Nat} (request : p'.request = p.request)
    (outcome : ∀ written, p'.stage.outcome? = some (.ok written) ↔
      p.stage.outcome? = some (.ok written))
    (admitted : p'.stage.outcome? = none → p.stage.outcome? = none)
    (ahead : p'.stage.isAhead = true → p.stage.isAhead = true)
    (guarded : Guarded key locks'
      ((s.members.map (·.stage.standing key)).set i (p'.stage.standing key)) holder?')
    (served : Served path { s.set i p' with locks := locks' } a holder?') :
    Orderly path key requests { s.set i p' with locks := locks' } a holder?' := by
  have hfair := h.fair i p hi
  refine ⟨(map_set_of_eq hi request).trans h.asked, ?_, h.nodup, ?_, served⟩
  · change Guarded key locks' ((s.members.set i p').map _) holder?'
    rw [List.map_set]
    exact guarded
  · refine forall_set h.fair (fun _ _ _ hq => hq)
      ⟨fun hnone => ?_, fun hahead => ?_, fun written => ?_⟩
    · rw [request]
      exact hfair.admitted (admitted hnone)
    · exact hfair.ahead (ahead hahead)
    · exact (hfair.effect written).trans (outcome written).symm

/-! ## A call that holds the lock -/

/-- A job that has nothing more to ask is entered into the account. -/
theorem exists_turns {earlier : List Nat} {rest : Script machine (Outcome Written)}
    (hi : s.members[i]? = some p) (stage : p.stage = .holding n rest)
    (asked : requests[i]? = some p.request)
    (admitted : p.request.task path = Task.locked path (p.request.job path))
    (turns : s.turns = earlier ++ [i]) (order : (a.effects.map (·.call)).Sublist earlier)
    (reaches : (p.request.job path).run.Reaches (faulty path true) a.disk rest s.disk) :
    ∃ a', Turns path requests a a' ∧ Served path s a' (some i) ∧
      ((a'.effects = a.effects ∧ ∀ written, p.stage.outcome? ≠ some (.ok written)) ∨
        ∃ effect, a'.effects = a.effects ++ [effect] ∧ effect.call = i ∧
          p.stage.outcome? = some (.ok effect.written)) := by
  cases rest with
  | ask call next =>
    refine ⟨a, .refl, .busy hi stage turns order reaches, .inl ⟨rfl, fun written h => ?_⟩⟩
    rw [stage] at h
    cases h
  | done outcome =>
    have hrun : Procedure.Runs (faultyTask path true) (p.request.task path) a.disk outcome
        s.disk := by
      rw [admitted]
      exact runs_locked.2 (reaches.runs ⟨rfl, rfl⟩)
    have houtcome : p.stage.outcome? = some outcome := by rw [stage]; rfl
    cases outcome with
    | error failure =>
      refine ⟨⟨a.effects, s.disk⟩, .single (.failed (List.mem_of_getElem? asked) hrun),
        .settled hi stage rfl ?_, .inl ⟨rfl, fun written h => ?_⟩⟩
      · rw [turns]
        exact order.trans (List.sublist_append_left _ _)
      · rw [houtcome] at h
        cases h
    | ok written =>
      obtain ⟨effect, hcall, rfl, happens⟩ := exists_effect asked hrun
      refine ⟨⟨a.effects ++ [effect], s.disk⟩, .single (.effective happens),
        .settled hi stage rfl ?_, .inr ⟨effect, rfl, hcall, houtcome⟩⟩
      rw [turns, List.map_append, List.map_singleton, hcall]
      exact order.append (.refl [i])

/-- What is entered into the account concerns the call that was carried out. -/
theorem Fair.enter {turns turns' : List Nat} {effects effects' : List Effect} {j : Nat}
    {q : Progress} (h : Fair path turns effects j q) (hj : j ≠ i) (others : j ∈ turns' → j ∈ turns)
    (entered : effects' = effects ∨ ∃ effect, effects' = effects ++ [effect] ∧ effect.call = i) :
    Fair path turns' effects' j q := by
  refine ⟨h.admitted, fun hahead hin => h.ahead hahead (others hin), fun written => ?_⟩
  rw [← h.effect written]
  rcases entered with rfl | ⟨last, rfl, hcall⟩
  · exact Iff.rfl
  constructor
  · rintro ⟨effect, heffect, rfl, hwritten⟩
    rcases List.mem_append.1 heffect with hold | hlast
    · exact ⟨effect, hold, rfl, hwritten⟩
    · rw [List.mem_singleton.1 hlast] at hj
      exact absurd hcall hj
  · rintro ⟨effect, hold, hentry⟩
    exact ⟨effect, List.mem_append_left _ hold, hentry⟩

/-- The call that holds the lock comes further, and may be entered into the account. -/
theorem Orderly.serve {rest : Script machine (Outcome Written)} {earlier : List Nat}
    (h : Orderly path key requests s a holder?) (hi : s.members[i]? = some p)
    (before : p.stage.outcome? = none)
    (members : s'.members = s.members.set i { p with stage := .holding n rest })
    (turns : s'.turns = earlier ++ [i]) (nodup : s'.turns.Nodup)
    (others : ∀ j, j ≠ i → j ∈ s'.turns → j ∈ s.turns)
    (order : (a.effects.map (·.call)).Sublist earlier)
    (guarded : Guarded key s'.locks (s'.members.map (·.stage.standing key)) (some i))
    (reaches : (p.request.job path).run.Reaches (faulty path true) a.disk rest s'.disk) :
    ∃ a' holder?', Turns path requests a a' ∧ Orderly path key requests s' a' holder?' := by
  have hlt : i < s.members.length := (List.getElem?_eq_some_iff.1 hi).1
  have hfair := h.fair i p hi
  have hasked : s'.members.map (·.request) = requests := by
    rw [members]
    exact (map_set_of_eq (y := { p with stage := .holding n rest }) hi rfl).trans h.asked
  have hi' : s'.members[i]? = some { p with stage := .holding n rest } := by
    rw [members]
    exact List.getElem?_set_self hlt
  have hrequest : requests[i]? = some p.request := by
    rw [← hasked, List.getElem?_map, hi']
    rfl
  obtain ⟨a', hturns, hserved, hentered⟩ :=
    exists_turns hi' rfl hrequest (hfair.admitted before) turns order reaches
  have hnone : ∀ effect ∈ a.effects, effect.call ≠ i := by
    intro effect heffect hcall
    have hsettled := (hfair.effect effect.written).1 ⟨effect, heffect, hcall, rfl⟩
    rw [before] at hsettled
    cases hsettled
  refine ⟨a', some i, hturns, hasked, guarded, nodup, ?_, hserved⟩
  rw [members]
  refine forall_set h.fair (fun j q hji hq => hq.enter hji (others j hji) ?_) ?_
  · rcases hentered with ⟨hsame, -⟩ | ⟨effect, hlast, hcall, -⟩
    · exact .inl hsame
    · exact .inr ⟨effect, hlast, hcall⟩
  refine ⟨fun _ => hfair.admitted before, nofun, fun written => ?_⟩
  rcases hentered with ⟨hsame, hfailed⟩ | ⟨last, hlast, hcall, houtcome⟩
  · rw [hsame]
    constructor
    · rintro ⟨effect, heffect, hcall, -⟩
      exact absurd hcall (hnone effect heffect)
    · exact fun hok => absurd hok (hfailed written)
  · rw [hlast, houtcome]
    constructor
    · rintro ⟨effect, heffect, hcall', rfl⟩
      rcases List.mem_append.1 heffect with hold | hnew
      · exact absurd hcall' (hnone effect hold)
      · rw [List.mem_singleton.1 hnew]
    · intro hok
      cases hok
      exact ⟨last, List.mem_append_right _ List.mem_cons_self, hcall, rfl⟩

theorem standing_of_member (key : Path) (hi : s.members[i]? = some p) :
    (s.members.map (·.stage.standing key))[i]? = some (p.stage.standing key) := by
  rw [List.getElem?_map, hi]
  rfl

/-- A call at a stage in which it does not hold the lock. -/
theorem Orderly.holder_ne (h : Orderly path key requests s a holder?)
    (hi : s.members[i]? = some p) (hp : ∀ n, p.stage.standing key ≠ .holding key n) :
    holder? ≠ some i := by
  intro hholder
  obtain ⟨n, hn⟩ := (h.guarded.holder_iff (standing_of_member key hi)).1 hholder
  exact hp n hn

theorem Orderly.guarded_set (h : Orderly path key requests s a holder?)
    (hi : s.members[i]? = some p) {stage : Stage}
    (same : stage.standing key = p.stage.standing key) :
    Guarded key s.locks ((s.members.map (·.stage.standing key)).set i (stage.standing key))
      holder? := by
  have hsame := map_set_of_eq (f := fun q : Progress => q.stage.standing key)
    (y := { p with stage := stage }) hi same
  rw [List.map_set] at hsame
  rw [hsame]
  exact h.guarded

/-- Each step either leaves the account as it is or enters the call that it settles. -/
theorem orderly_of_move (hmove : Move path key s s')
    (h : Orderly path key requests s a holder?) :
    ∃ a' holder?', Turns path requests a a' ∧ Orderly path key requests s' a' holder?' := by
  cases hmove with
  | @locate i p hi stage =>
    have hne := h.holder_ne hi (by simp [stage, Stage.standing])
    refine ⟨a, holder?, .refl, h.set hi rfl ?_ ?_ ?_ (h.guarded_set hi ?_)
      (h.served.set hi (.inl hne))⟩
    · simp [stage, Stage.outcome?]
    · simp [stage, Stage.outcome?]
    · simp [stage, Stage.isAhead]
    · simp [stage, Stage.standing]
  | @lease i p hi stage =>
    have hne := h.holder_ne hi (by simp [stage, Stage.standing])
    have hapart := standing_of_member key hi
    rw [stage] at hapart
    refine ⟨a, holder?, .refl, h.set hi rfl ?_ ?_ ?_ (h.guarded.lease hapart)
      (h.served.set hi (.inl hne))⟩
    · simp [stage, Stage.outcome?]
    · simp [stage, Stage.outcome?]
    · simp [stage, Stage.isAhead]
  | @hold i n p hi stage isOpen =>
    have hwaiting := standing_of_member key hi
    rw [stage] at hwaiting
    obtain ⟨rfl, hguarded⟩ := h.guarded.hold hwaiting isOpen
    have hnew : i ∉ s.turns := (h.fair i p hi).ahead (by rw [stage]; rfl)
    have hserved := h.served
    cases hserved with
    | idle disk order =>
      refine h.serve hi (by rw [stage]; rfl) rfl rfl ?_ ?_ order ?_ ?_
      · change (s.turns ++ [i]).Nodup
        rw [← List.concat_eq_append]
        exact List.Nodup.concat hnew h.nodup
      · intro j hji hj
        simpa [hji] using hj
      · rw [Crowd.set, List.map_set]
        exact hguarded
      · change Script.Reaches _ _ a.disk _ s.disk
        rw [disk]
        exact .start
  | @work i n p call next reply d hi stage hstep =>
    have hholding := standing_of_member key hi
    rw [stage] at hholding
    obtain rfl := (h.guarded.holder_iff hholding).2 ⟨n, rfl⟩
    obtain ⟨_, hdone, -⟩ | ⟨_, _, earlier, -, turns, order, reaches⟩ := h.served.of_holding hi stage
    · cases hdone
    · refine h.serve hi (by rw [stage]; rfl) rfl turns h.nodup (fun _ _ hj => hj) order ?_
        (reaches.answered hstep)
      rw [Crowd.set, List.map_set]
      exact h.guarded_set hi (by rw [stage]; rfl)
  | @release i n p outcome hi stage =>
    have hholding := standing_of_member key hi
    rw [stage] at hholding
    obtain ⟨hheld, hguarded⟩ := h.guarded.release true hholding
    obtain rfl := hheld rfl
    obtain ⟨_, -, disk, order⟩ | ⟨_, _, _, hask, -⟩ := h.served.of_holding hi stage
    · refine ⟨a, none, .refl, h.set hi rfl ?_ ?_ ?_ hguarded (.idle disk order)⟩
      · simp [stage, Stage.outcome?]
      · simp [Stage.outcome?]
      · simp [Stage.isAhead]
    · cases hask
  | @turnBack i p hi stage =>
    have hne := h.holder_ne hi (by rcases stage with h | h <;> simp [h, Stage.standing])
    refine ⟨a, holder?, .refl, h.set hi rfl ?_ ?_ ?_ (h.guarded_set hi ?_)
      (h.served.set hi (.inl hne))⟩
    · rcases stage with h | h <;> simp [h, Stage.outcome?]
    · simp [Stage.outcome?]
    · simp [Stage.isAhead]
    · rcases stage with h | h <;> simp [h, Stage.standing]
  | @giveUp i n p hi stage =>
    have hne := h.holder_ne hi (by simp [stage, Stage.standing])
    have hwaiting := standing_of_member key hi
    rw [stage] at hwaiting
    obtain ⟨-, hguarded⟩ := h.guarded.release false hwaiting
    refine ⟨a, holder?, .refl, h.set hi rfl ?_ ?_ ?_ hguarded (h.served.set hi (.inl hne))⟩
    · simp [stage, Stage.outcome?]
    · simp [Stage.outcome?]
    · simp [Stage.isAhead]
  | @abandon i p hi =>
    exact ⟨a, holder?, .refl, h.set hi rfl (fun _ => Iff.rfl) id id (h.guarded_set hi rfl)
      (h.served.set hi (.inr ⟨rfl, rfl⟩))⟩

/-! ## Runs of a crowd -/

theorem orderly_start {d : Disk} {locks : Locks} (hfree : locks.registry[key.text]? = none)
    (requests : List Request) :
    Orderly path key requests
      ⟨d, locks, requests.map fun r => ⟨r, .ofScript (r.task path).run, false⟩, []⟩ ⟨[], d⟩
      none := by
  have hstage : ∀ r : Request, ∃ stage, Stage.ofScript (r.task path).run = stage ∧
      ((stage = .fresh ∧ r.task path = Task.locked path (r.job path)) ∨
        ∃ failure, stage = .finished (.error failure)) := by
    intro r
    rcases r.task_cases path with ⟨failure, hrefused⟩ | hlocked
    · exact ⟨_, rfl, .inr ⟨failure, by rw [hrefused]; rfl⟩⟩
    · exact ⟨_, rfl, .inl ⟨by rw [hlocked]; rfl, hlocked⟩⟩
  refine ⟨by simp [Function.comp_def], .free hfree ?_, List.nodup_nil, ?_, .idle rfl (.refl [])⟩
  · intro standing hmem
    simp only [List.map_map, List.mem_map, Function.comp_apply] at hmem
    obtain ⟨r, -, rfl⟩ := hmem
    obtain ⟨stage, hstage, ⟨rfl, -⟩ | ⟨failure, rfl⟩⟩ := hstage r
    · rw [hstage]
      rfl
    · rw [hstage]
      rfl
  · intro i p hi
    rw [List.getElem?_map, Option.map_eq_some_iff] at hi
    obtain ⟨r, -, rfl⟩ := hi
    obtain ⟨stage, hstage, ⟨rfl, hlocked⟩ | ⟨failure, rfl⟩⟩ := hstage r
    · refine ⟨fun _ => hlocked, fun _ => List.not_mem_nil, fun written => ?_⟩
      simp [hstage, Stage.outcome?]
    · refine ⟨fun hnone => ?_, fun _ => List.not_mem_nil, fun written => ?_⟩
      · rw [hstage] at hnone
        cases hnone
      · simp [hstage, Stage.outcome?]

/-- At any moment, what is at the path is what the account says, or was found there before. -/
theorem Orderly.has {z : Location} {content : ByteArray}
    (h : Orderly path key requests s a holder?) (hz : s.disk.Names path z)
    (hcontent : s.disk.entry? z = some (.file content)) : a.Has z content := by
  left
  have hserved := h.served
  cases hserved with
  | idle disk order => rw [← disk, hcontent]
  | settled _ _ disk order => rw [← disk, hcontent]
  | @busy i n p _ _ _ _ _ _ _ reaches =>
    exact (reaches.through (through_job p.request)).1.entry_of_names hz hcontent

theorem extends_of_step {c c' : Crowd Activity} (h : Step path base c c') :
    Extends c.disk c'.disk := by
  cases h with
  | work _ h => exact (stays_of_faulty (faulty_of_attended h)).toExtends
  | _ => exact .refl _

/-- Files that were at the path are in their place, or were found there by one of the calls. -/
def Kept (path : Path) (moment c : Crowd Activity) (a : Account) : Prop :=
  Extends moment.disk c.disk ∧ ∀ z content, moment.disk.Names path z →
    moment.disk.entry? z = some (.file content) → a.Has z content

theorem orderly_of_course {moments : List (Crowd Activity)} {c : Crowd Activity}
    (h : Orderly path (Path.absoluteFrom base path) requests s a holder?)
    (course : Course path base (s.map (Progress.activity path base)) moments c) :
    ∃ s' a' holder?', c = s'.map (Progress.activity path base) ∧ Turns path requests a a' ∧
      Orderly path (Path.absoluteFrom base path) requests s' a' holder?' ∧
      ∀ moment ∈ moments, Kept path moment c a' := by
  induction course with
  | start =>
    refine ⟨s, a, holder?, rfl, .refl, h, fun moment hmoment => ?_⟩
    rw [List.mem_singleton.1 hmoment]
    exact ⟨.refl _, fun z content => h.has⟩
  | @step moments c' c'' _ hstep ih =>
    obtain ⟨s', a', holder?', rfl, hturns, horder, hkept⟩ := ih
    have hextends := extends_of_step hstep
    obtain ⟨s'', hmove, rfl⟩ := exists_move hstep
    obtain ⟨a'', holder?'', hturns', horder'⟩ := orderly_of_move hmove horder
    refine ⟨s'', a'', holder?'', rfl, hturns.trans hturns', horder', fun moment hmoment => ?_⟩
    rcases List.mem_append.1 hmoment with hold | hnew
    · obtain ⟨hextends', hhas⟩ := hkept moment hold
      exact ⟨hextends'.trans hextends, fun z content hz hcontent =>
        has_of_turns hturns' (hhas z content hz hcontent)⟩
    · rw [List.mem_singleton.1 hnew]
      exact ⟨.refl _, fun z content => horder'.has⟩

/-! ## When all are done -/

/-- What a crowd whose calls are all done has come to: those that succeeded took effect one after
the other, in the order in which they obtained the lock, and the others left nothing but parents
of the path. -/
structure Serialized (path : Path) (requests : List Request) (d : Disk) (c : Crowd Activity)
    (effects : List Effect) : Prop where
  nodup : c.turns.Nodup
  order : (effects.map (·.call)).Sublist c.turns
  effect : ∀ i written, (∃ effect ∈ effects, effect.call = i ∧ effect.written = written) ↔
    c.Ended i (.ok written)
  serial : ∃ e, Grown path.Above d e ∧ (∀ x, d.Names path x → e = d) ∧
    Serial path requests e effects c.disk
  saved : ∀ effect ∈ effects, ∀ content, effect.found = some content →
    ∃ backup, effect.written.backup = some backup ∧ c.disk.readFile backup = .ok content
  distinct : (effects.filterMap (·.written.backup)).Nodup

theorem Stage.eq_finished {stage : Stage} {job : Job Written} {outcome : Outcome Written}
    (h : stage.rest path base job = .done outcome) : stage = .finished outcome := by
  cases stage with
  | finished outcome =>
    cases h
    rfl
  | holding n rest => cases rest <;> cases h
  | _ => cases h

theorem ended_iff {outcome : Outcome Written} :
    (s.map (Progress.activity path base)).Ended i outcome ↔
      ∃ p, s.members[i]? = some p ∧ p.stage = .finished outcome := by
  constructor
  · rintro ⟨activity, hi, hrest⟩
    obtain ⟨p, hp, rfl⟩ : ∃ p, s.members[i]? = some p ∧ p.activity path base = activity := by
      simpa [Crowd.map] using hi
    exact ⟨p, hp, Stage.eq_finished hrest⟩
  · rintro ⟨p, hi, hstage⟩
    refine ⟨p.activity path base, ?_, ?_⟩
    · change (s.members.map _)[i]? = _
      rw [List.getElem?_map, hi]
      rfl
    · rw [Progress.activity, hstage]
      rfl

theorem exists_finished (done : (s.map (Progress.activity path base)).IsDone)
    (hi : s.members[i]? = some p) : ∃ outcome, p.stage = .finished outcome := by
  have hlt : i < (s.map (Progress.activity path base)).members.length := by
    simpa [Crowd.map] using (List.getElem?_eq_some_iff.1 hi).1
  obtain ⟨outcome, hended⟩ := done i hlt
  obtain ⟨p', hi', hstage⟩ := ended_iff.1 hended
  rw [hi, Option.some.injEq] at hi'
  exact ⟨outcome, hi' ▸ hstage⟩

/-- When all are done nobody holds the lock. -/
theorem Orderly.idle (h : Orderly path key requests s a holder?)
    (done : (s.map (Progress.activity path base)).IsDone) :
    s.disk = a.disk ∧ (a.effects.map (·.call)).Sublist s.turns := by
  have hserved := h.served
  cases holder? with
  | none =>
    cases hserved with
    | idle disk order => exact ⟨disk, order⟩
  | some i =>
    obtain ⟨p, n, rest, hi, holding⟩ := hserved.exists_holding
    obtain ⟨outcome, hstage⟩ := exists_finished done hi
    rw [holding] at hstage
    cases hstage

theorem Orderly.serialized {d : Disk} (h : Orderly path key requests s a holder?)
    (hturns : Turns path requests ⟨[], d⟩ a)
    (done : (s.map (Progress.activity path base)).IsDone) :
    Serialized path requests d (s.map (Progress.activity path base)) a.effects := by
  obtain ⟨hdisk, horder⟩ := h.idle done
  obtain ⟨e, hgrown, hsame, hserial⟩ := serial_of_turns hturns
  have hsaved := saved_of_turns hturns
  refine ⟨h.nodup, horder, fun i written => ?_, ⟨e, hgrown, hsame, ?_⟩, ?_, hsaved.distinct⟩
  · rw [ended_iff]
    constructor
    · rintro ⟨effect, heffect, rfl, hwritten⟩
      obtain ⟨request, hrequest⟩ := hserial.asked heffect
      rw [← h.asked, List.getElem?_map, Option.map_eq_some_iff] at hrequest
      obtain ⟨p, hi, -⟩ := hrequest
      have houtcome := ((h.fair _ p hi).effect written).1 ⟨effect, heffect, rfl, hwritten⟩
      obtain ⟨outcome, hstage⟩ := exists_finished done hi
      rw [hstage, Stage.outcome?, Option.some.injEq] at houtcome
      exact ⟨p, hi, houtcome ▸ hstage⟩
    · rintro ⟨p, hi, hstage⟩
      exact ((h.fair i p hi).effect written).2 (by rw [hstage]; rfl)
  · change Serial path requests e a.effects s.disk
    rw [hdisk]
    exact hserial
  · change ∀ effect ∈ a.effects, ∀ content, effect.found = some content →
      ∃ backup, effect.written.backup = some backup ∧ s.disk.readFile backup = .ok content
    rw [hdisk]
    exact fun effect heffect content => hsaved.readFile heffect

/-- When all are done the lock is not registered: the next calls find it as the first did. -/
theorem unregistered_of_course {d : Disk} {locks : Locks} {c : Crowd Activity}
    {moments : List (Crowd Activity)}
    (free : locks.registry[(Path.absoluteFrom base path).text]? = none)
    (course : Course path base (Crowd.start path requests d locks) moments c) (done : c.IsDone) :
    c.locks.registry[(Path.absoluteFrom base path).text]? = none := by
  rw [start_eq_map path base] at course
  obtain ⟨s, a, holder?, rfl, -, horder, -⟩ :=
    orderly_of_course (orderly_start free requests) course
  refine horder.guarded.unregistered fun standing hstanding => ?_
  obtain ⟨p, hp, rfl⟩ := List.mem_map.1 hstanding
  obtain ⟨i, hi⟩ := List.mem_iff_getElem?.1 hp
  obtain ⟨outcome, hstage⟩ := exists_finished done hi
  rw [hstage]
  rfl

/-- However calls to one path run into each other, and whoever goes away: when all are done, the
files are those that the calls with an effect leave one after the other, and whatever was at the
path at any moment is there or in the backup of the call that found it. -/
theorem crowd_keeps_every_version {d : Disk} {locks : Locks} {c : Crowd Activity}
    {moments : List (Crowd Activity)}
    (free : locks.registry[(Path.absoluteFrom base path).text]? = none)
    (course : Course path base (Crowd.start path requests d locks) moments c) (done : c.IsDone) :
    ∃ effects, Serialized path requests d c effects ∧
      ∀ moment ∈ moments, ∀ content, moment.disk.readFile path = .ok content →
        c.disk.readFile path = .ok content ∨
          ∃ effect ∈ effects, effect.found = some content := by
  rw [start_eq_map path base] at course
  obtain ⟨s, a, holder?, rfl, hturns, horder, hkept⟩ :=
    orderly_of_course (orderly_start free requests) course
  refine ⟨a.effects, horder.serialized hturns done, fun moment hmoment content hread => ?_⟩
  obtain ⟨hextends, hhas⟩ := hkept moment hmoment
  obtain ⟨z, hz, hcontent⟩ := Disk.readFile_iff.1 hread
  rcases hhas z content hz hcontent with hthere | hfound
  · rw [← (horder.idle done).1] at hthere
    exact .inl (Disk.readFile_iff.2 ⟨z, hz.mono hextends, hthere⟩)
  · exact .inr hfound

end Order

/-! ## Two calls -/

section TwoCalls

theorem serves_attended (base : Path) : Serves (attended ⟨"f"⟩ base false) := by
  refine ⟨fun {call d d' reply} hdirectory hcancelled h => ?_, fun _ => ⟨rfl, rfl⟩⟩
  cases call with
  | workingDirectory => exact absurd rfl hdirectory
  | isCancelled => exact absurd rfl hcancelled
  | _ => exact h

/-- One of two calls waits for the other, and its caller goes away before it has its turn. -/
theorem exists_steps_oneFile : ∃ locks, Relation.ReflTransGen (Step ⟨"f"⟩ ⟨"/"⟩)
    (.start ⟨"f"⟩ [.write "new", .write "later"] oneFile default)
    ⟨oneFileReplaced, locks,
      [⟨.done (.ok ⟨⟨"f"⟩, some ⟨"f.bak"⟩, 3⟩), .apart, false⟩,
        ⟨.done (.error (cancelled ⟨"f"⟩)), .apart, true⟩], [0]⟩ := by
  have hvalid : checkPath ⟨"f"⟩ = .ok () := by decide
  have htask : ∀ content, (Request.write content).task ⟨"f"⟩ =
      Task.locked ⟨"f"⟩ (replaceContent ⟨"f"⟩ content) := by
    intro content
    unfold Request.task Output.write
    rw [hvalid]
    rfl
  have hstart : Crowd.start ⟨"f"⟩ [.write "new", .write "later"] oneFile default =
      ⟨oneFile, default, [Progress.activity ⟨"f"⟩ ⟨"/"⟩ ⟨.write "new", .fresh, false⟩,
        Progress.activity ⟨"f"⟩ ⟨"/"⟩ ⟨.write "later", .fresh, false⟩], []⟩ := by
    simp only [Crowd.start, List.map_cons, List.map_nil, htask]
    rfl
  let key := Path.absoluteFrom ⟨"/"⟩ ⟨"f"⟩
  let first (stage : Stage) : Activity :=
    Progress.activity ⟨"f"⟩ ⟨"/"⟩ ⟨.write "new", stage, false⟩
  let second (stage : Stage) : Activity :=
    Progress.activity ⟨"f"⟩ ⟨"/"⟩ ⟨.write "later", stage, false⟩
  let working : Stage := .holding 0 (replaceContent ⟨"f"⟩ "new").run
  let written : Stage := .holding 0 (.done (.ok ⟨⟨"f"⟩, some ⟨"f.bak"⟩, 3⟩))
  let gone : Activity := ⟨.done (.error (cancelled ⟨"f"⟩)), .apart, true⟩
  let leased : Locks := (Locks.lease default key).2
  let held : Locks := leased.hold 0
  let shared : Locks := (held.lease key).2
  let left : Locks := shared.release key 0 false
  have hregistered : held.registry[key.text]? = some 0 := Std.ExtTreeMap.getElem?_insert_self
  have hsame : (held.lease key).1 = 0 := by simp [Locks.lease, hregistered]
  have hhere : attended ⟨"f"⟩ ⟨"/"⟩ false .workingDirectory oneFile ⟨"/"⟩ oneFile := ⟨rfl, rfl⟩
  refine ⟨left.release key 0 true, ?_⟩
  rw [hstart]
  let Steps (c : Crowd Activity) : Prop := Relation.ReflTransGen (Step ⟨"f"⟩ ⟨"/"⟩) c
    ⟨oneFileReplaced, left.release key 0 true,
      [⟨.done (.ok ⟨⟨"f"⟩, some ⟨"f.bak"⟩, 3⟩), .apart, false⟩, gone], [0]⟩
  -- Each step, and what it leads to.
  refine .head (Step.work (i := 0) rfl hhere) ?_
  change Steps ⟨oneFile, default, [first .located, second .fresh], []⟩
  refine .head (Step.lease (i := 0) rfl) ?_
  change Steps ⟨oneFile, leased, [first (.waiting 0), second .fresh], []⟩
  refine .head (Step.hold (i := 0) rfl rfl) ?_
  change Steps ⟨oneFile, held, [first working, second .fresh], [0]⟩
  refine .head (Step.work (i := 1) rfl hhere) ?_
  change Steps ⟨oneFile, held, [first working, second .located], [0]⟩
  refine .head (Step.lease (i := 1) rfl) ?_
  change Steps ⟨oneFile, shared, [first working, second (.waiting (held.lease key).1)], [0]⟩
  rw [hsame]
  refine .trans (steps_of_runs (i := 0) rfl
    (runs_replaceContent_oneFile_ok (serves_attended ⟨"/"⟩))) ?_
  change Steps ⟨oneFileReplaced, shared, [first written, second (.waiting 0)], [0]⟩
  refine .head (Step.giveUp (i := 1) rfl) ?_
  change Steps ⟨oneFileReplaced, left, [first written, gone], [0]⟩
  refine .head (Step.release (i := 0) rfl) ?_
  exact .refl

theorem crowd_keeps_every_version_oneFile :
    ∃ (c : Crowd Activity) (moments : List (Crowd Activity)) (effects : List Effect),
      Course ⟨"f"⟩ ⟨"/"⟩ (.start ⟨"f"⟩ [.write "new", .write "later"] oneFile default) moments c ∧
      c.Ended 0 (.ok ⟨⟨"f"⟩, some ⟨"f.bak"⟩, 3⟩) ∧ c.Ended 1 (.error (cancelled ⟨"f"⟩)) ∧
      c.disk = oneFileReplaced ∧
      Serialized ⟨"f"⟩ [.write "new", .write "later"] oneFile c effects ∧
      ∀ moment ∈ moments, ∀ content, moment.disk.readFile ⟨"f"⟩ = .ok content →
        c.disk.readFile ⟨"f"⟩ = .ok content ∨
          ∃ effect ∈ effects, effect.found = some content := by
  obtain ⟨locks, hsteps⟩ := exists_steps_oneFile
  obtain ⟨moments, hcourse⟩ := exists_course hsteps
  have hfree : (default : Locks).registry[(Path.absoluteFrom ⟨"/"⟩ ⟨"f"⟩).text]? = none :=
    Std.ExtTreeMap.getElem?_empty
  have hdone : Crowd.IsDone ⟨oneFileReplaced, locks,
      [⟨.done (.ok ⟨⟨"f"⟩, some ⟨"f.bak"⟩, 3⟩), .apart, false⟩,
        ⟨.done (.error (cancelled ⟨"f"⟩)), .apart, true⟩], [0]⟩ := by
    intro i hi
    match i, hi with
    | 0, _ => exact ⟨_, _, rfl, rfl⟩
    | 1, _ => exact ⟨_, _, rfl, rfl⟩
  obtain ⟨effects, hserialized, hkept⟩ := crowd_keeps_every_version hfree hcourse hdone
  exact ⟨_, moments, effects, hcourse, ⟨_, rfl, rfl⟩, ⟨_, rfl, rfl⟩, rfl, hserialized, hkept⟩

end TwoCalls

end SchemaCodegen.Output
