import SchemaCodegen.Proofs.Output.Pool
import SchemaCodegen.Proofs.Output.Versions

/-!
# Calls at work on one disk

Calls to any paths share their locks and the disk that they write to. Calls whose paths have one
lock take turns, however these paths are spelled: at every moment the disk is what some of them have
left, one after the other and each as a whole, but for the one that holds the lock, which has come
some way from there (`Workshop.Served`). So when nobody holds the lock nothing is lost that was
there at the start or that a call has written.
-/

namespace SchemaCodegen.Output

/-! ## Requests one after the other -/

/-- A request, and the path that it is for. -/
structure Errand where
  path : Path
  request : Request

/-- Requests are carried out one after the other, each with what it came to. -/
inductive InTurn (errands : List Errand) (d : Disk) :
    List (Nat × Outcome Written) → Disk → Prop where
  | none : InTurn errands d [] d
  | next {log : List (Nat × Outcome Written)} {i : Nat} {errand : Errand}
      {outcome : Outcome Written} {d' d'' : Disk} (before : InTurn errands d log d')
      (asked : errands[i]? = some errand)
      (run : Procedure.Runs (faultyTask errand.path true) (errand.request.task errand.path) d'
        outcome d'') : InTurn errands d (log ++ [(i, outcome)]) d''

section InTurn

variable {errands : List Errand} {d d' : Disk} {log : List (Nat × Outcome Written)} {i : Nat}
  {written : Written}

theorem InTurn.requests (h : InTurn errands d log d') : Requests d d' := by
  induction h with
  | none => exact .none d
  | next _ _ run ih => exact ih.next _ true _ _ run

/-- What a call has written can be read after all that follows. -/
theorem InTurn.exists_readFile (h : InTurn errands d log d') (hi : (i, .ok written) ∈ log) :
    ∃ errand between content p, errands[i]? = some errand ∧ Requests d between ∧
      errand.request.Puts errand.path between content ∧ d'.readFile p = .ok content.toUTF8 := by
  induction h with
  | none => cases hi
  | @next log j errand outcome d' d'' before asked run ih =>
    rcases List.mem_append.1 hi with hold | hnew
    · obtain ⟨errand', between, content, p, hasked, hbetween, hputs, hread⟩ := ih hold
      obtain ⟨q, hq⟩ := (keeps_of_request run).readable p _ hread
      exact ⟨errand', between, content, q, hasked, hbetween, hputs, hq⟩
    · cases List.mem_singleton.1 hnew
      obtain ⟨content, hputs, hreplaced⟩ := replaced_of_request run
      exact ⟨errand, d', content, errand.path, asked, before.requests, hputs, hreplaced.readFile⟩

/-- Nothing is lost at any moment of a request. -/
theorem keeps_of_reaches {path : Path} {request : Request} {rest : Script machine (Outcome Written)}
    (locked : request.task path = Task.locked path (request.job path))
    (reaches : (request.job path).run.Reaches (faulty path true) d rest d') : Keeps d d' := by
  cases rest with
  | ask call next =>
    obtain ⟨between, hgrown, hleaves⟩ := (reaches.through (through_job request)).1
    exact .of_leaves hgrown hleaves
  | done outcome =>
    have hrun : Procedure.Runs (faultyTask path true) (request.task path) d outcome d' := by
      rw [locked]
      exact runs_locked.2 (reaches.runs ⟨rfl, rfl⟩)
    exact keeps_of_request hrun

end InTurn

/-! ## A workshop -/

/-- Calls to any paths, and the disk that they write to. -/
structure Workshop where
  pool : Pool
  disk : Disk

namespace Writer

variable {w : Writer} {written : Written}

theorem path_forsaken : w.forsaken.path = w.path := by
  unfold forsaken
  split <;> rfl

theorem forsaken_ne_done (unfinished : ∀ outcome, w.rest ≠ .done outcome) :
    w.forsaken.rest ≠ .done (.ok written) := by
  unfold forsaken
  split
  · exact nofun
  · exact nofun
  · exact unfinished _

end Writer

namespace Workshop

/-- One of the calls goes on by one question, or its caller goes away. The process stays in one
directory. -/
inductive Step (base : Path) (shop : Workshop) : Workshop → Prop where
  | work {i : Nat} {w : Writer} {call : Machine.Call}
      {next : Machine.Reply call → Script writing (Outcome Written)} {reply : Machine.Reply call}
      {d : Disk} (writer : shop.pool.writers[i]? = some w) (rest : w.rest = .ask (.inl call) next)
      (h : attended w.path base w.isAbandoned call shop.disk reply d) :
      Step base shop ⟨shop.pool.set i (w.goOn (next reply) w.standing), d⟩
  | deal {i : Nat} {w : Writer} {call : Locks.Call}
      {next : Locks.Reply call → Script writing (Outcome Written)} {reply : Locks.Reply call}
      {locks : Locks} (writer : shop.pool.writers[i]? = some w)
      (rest : w.rest = .ask (.inr call) next) (isOpen : shop.pool.locks.isOpen call = true)
      (answer : Locks.answer call shop.pool.locks = (reply, locks)) :
      Step base shop
        ⟨{ shop.pool.set i (w.goOn (next reply) (w.standing.after call reply)) with locks },
          shop.disk⟩
  | leave {i : Nat} {w : Writer} (writer : shop.pool.writers[i]? = some w)
      (unfinished : ∀ outcome, w.rest ≠ .done outcome) :
      Step base shop ⟨shop.pool.set i w.forsaken, shop.disk⟩

/-- All calls have still everything to ask. -/
def start (errands : List Errand) (d : Disk) : Workshop :=
  ⟨⟨default, errands.map fun errand => .start errand.path errand.request⟩, d⟩

section

variable {base key : Path} {shop shop' : Workshop} {errands : List Errand} {errand : Errand}
  {d d' e e' : Disk} {log log' : List (Nat × Outcome Written)} {i j n : Nat} {v w w' : Writer}
  {a : Activity} {written : Written}

/-- What happens in a workshop may happen in its pool. -/
theorem Step.pool (h : Step base shop shop') : Pool.Step shop.pool shop'.pool := by
  cases h with
  | @work i w call next reply d writer rest h =>
    have htold : w.IsTold call reply := by
      cases call with
      | isCancelled => exact h.1
      | _ => trivial
    exact .work writer rest htold
  | deal writer rest isOpen answer => exact .deal writer rest isOpen answer
  | leave writer unfinished => exact .leave writer unfinished

theorem inOrder_start (errands : List Errand) (d : Disk) : (start errands d).pool.InOrder := by
  have hsteps : Relation.ReflTransGen Pool.Step ⟨default, []⟩ (start errands d).pool := by
    induction errands using List.reverseRecOn with
    | nil => exact .refl
    | append_singleton errands errand ih =>
      have hwriters : (start (errands ++ [errand]) d).pool =
          { (start errands d).pool with
            writers := (start errands d).pool.writers ++ [.start errand.path errand.request] } := by
        simp [start]
      rw [hwriters]
      exact ih.tail (.enter errand.path errand.request)
  exact Pool.inOrder_of_steps hsteps

/-- When a call has obtained the lock, nobody held it before. -/
theorem nobody_held {pool pool' : Pool} (writer : pool.writers[i]? = some w)
    (apart : ∀ n, w.standing ≠ .holding key n) (writers : pool'.writers = pool.writers.set i w')
    (inOrder : pool'.InOrder) (holds : w'.standing = .holding key n) :
    ∀ v ∈ pool.writers, ∀ m, v.standing ≠ .holding key m := by
  intro v hv m hholds
  obtain ⟨j, hj⟩ := List.getElem?_of_mem hv
  have hij : i ≠ j := by
    rintro rfl
    rw [writer] at hj
    cases hj
    exact apart m hholds
  have hlt := (List.getElem?_eq_some_iff.1 writer).1
  have hi' : pool'.writers[i]? = some w' := by rw [writers, List.getElem?_set_self hlt]
  have hj' : pool'.writers[j]? = some v := by rw [writers, List.getElem?_set_ne hij, hj]
  have hw := Pool.getElem?_standings hi'
  have hv := Pool.getElem?_standings hj'
  rw [holds] at hw
  rw [hholds] at hv
  exact hij (inOrder.sound.exclusive hw hv)

/-! ## One call -/

/-- How far a call has come with its errand. The calls that are through have led to the disk `e`,
and the one that holds the lock has come from there to `d`. -/
inductive Stands (base : Path) (errand : Errand) (e d : Disk) : Activity → Prop where
  | fresh (isAbandoned : Bool) (locked : errand.request.task errand.path =
        Task.locked errand.path (errand.request.job errand.path)) :
      Stands base errand e d
        ⟨.ask (.inl .workingDirectory) fun reply =>
          leasing (Path.absoluteFrom reply errand.path) (errand.request.job errand.path),
          .apart, isAbandoned⟩
  | located (isAbandoned : Bool) (locked : errand.request.task errand.path =
        Task.locked errand.path (errand.request.job errand.path)) :
      Stands base errand e d
        ⟨leasing (Path.absoluteFrom base errand.path) (errand.request.job errand.path), .apart,
          isAbandoned⟩
  | waiting (n : Nat) (isAbandoned : Bool) (locked : errand.request.task errand.path =
        Task.locked errand.path (errand.request.job errand.path)) :
      Stands base errand e d
        ⟨.ask (.inr (.hold n)) fun _ =>
          serving (Path.absoluteFrom base errand.path) n (errand.request.job errand.path).run,
          .waiting (Path.absoluteFrom base errand.path) n, isAbandoned⟩
  | holding (n : Nat) (isAbandoned : Bool) (rest : Script machine (Outcome Written))
      (locked : errand.request.task errand.path =
        Task.locked errand.path (errand.request.job errand.path))
      (reaches : (errand.request.job errand.path).run.Reaches (faulty errand.path true) e rest d) :
      Stands base errand e d
        ⟨serving (Path.absoluteFrom base errand.path) n rest,
          .holding (Path.absoluteFrom base errand.path) n, isAbandoned⟩
  /-- The caller went away while the call waited. -/
  | leaving (n : Nat) (isAbandoned : Bool) (failure : Failure) :
      Stands base errand e d
        ⟨.ask (.inr (.release (Path.absoluteFrom base errand.path) n false)) fun _ =>
          .done (.error failure), .waiting (Path.absoluteFrom base errand.path) n, isAbandoned⟩
  | ended (outcome : Outcome Written) (isAbandoned : Bool) :
      Stands base errand e d ⟨.done outcome, .apart, isAbandoned⟩

theorem serving_ne_done {rest : Script machine (Outcome Written)} {outcome : Outcome Written} :
    serving key n rest ≠ .done outcome := by
  cases rest <;> exact nofun

theorem stands_start (errand : Errand) :
    Stands base errand e d (Writer.start errand.path errand.request).toActivity := by
  rcases errand.request.task_cases errand.path with ⟨failure, hrefused⟩ | hlocked
  · rw [Writer.start, hrefused]
    exact .ended _ _
  · rw [Writer.start, hlocked]
    exact .fresh false hlocked

/-- Only the call that holds the lock has to do with the disk. -/
theorem Stands.elsewhere (h : Stands base errand e d a)
    (hapart : ∀ n, a.standing ≠ .holding (Path.absoluteFrom base errand.path) n) :
    Stands base errand e' d' a := by
  cases h with
  | fresh isAbandoned locked => exact .fresh isAbandoned locked
  | located isAbandoned locked => exact .located isAbandoned locked
  | waiting n isAbandoned locked => exact .waiting n isAbandoned locked
  | holding n => exact absurd rfl (hapart n)
  | leaving n isAbandoned failure => exact .leaving n isAbandoned failure
  | ended outcome isAbandoned => exact .ended outcome isAbandoned

theorem Stands.forsaken (h : Stands base errand e d w.toActivity) :
    Stands base errand e d w.forsaken.toActivity := by
  obtain ⟨a, path⟩ := w
  cases h with
  | fresh => exact .ended _ _
  | located => exact .ended _ _
  | waiting n => exact .leaving n _ _
  | holding n isAbandoned rest locked reaches => exact .holding n _ rest locked reaches
  | leaving n => exact .leaving n _ _
  | ended => exact .ended _ _

/-! ## Calls that share a lock -/

/-- The calls in the log are through and have led to the disk `e`, and at most the one that holds
the lock has come further. -/
structure Served (base key : Path) (errands : List Errand) (d : Disk) (shop : Workshop)
    (log : List (Nat × Outcome Written)) (e : Disk) : Prop where
  inOrder : shop.pool.InOrder
  before : InTurn errands d log e
  idle : (∀ w ∈ shop.pool.writers, ∀ n, w.standing ≠ .holding key n) → shop.disk = e
  stands : ∀ (i : Nat) w, shop.pool.writers[i]? = some w → ∃ errand, errands[i]? = some errand ∧
    errand.path = w.path ∧ Stands base errand e shop.disk w.toActivity
  logged : ∀ (i : Nat) w written, shop.pool.writers[i]? = some w → w.rest = .done (.ok written) →
    (i, .ok written) ∈ log

theorem served_start (errands : List Errand) (d : Disk) :
    Served base key errands d (start errands d) [] d := by
  have hwriter : ∀ {i : Nat} {w}, (start errands d).pool.writers[i]? = some w →
      ∃ errand, errands[i]? = some errand ∧ Writer.start errand.path errand.request = w := by
    intro i w hi
    simpa [start] using hi
  refine ⟨inOrder_start errands d, .none, fun _ => rfl, fun i w hi => ?_,
    fun i w written hi hrest => ?_⟩
  · obtain ⟨errand, herrand, rfl⟩ := hwriter hi
    exact ⟨errand, herrand, rfl, stands_start errand⟩
  · obtain ⟨errand, -, rfl⟩ := hwriter hi
    rcases errand.request.task_cases errand.path with ⟨failure, hrefused⟩ | hlocked
    · rw [Writer.start, hrefused] at hrest
      cases hrest
    · rw [Writer.start, hlocked] at hrest
      cases hrest

theorem Served.set (h : Served base key errands d shop log e)
    (writers : shop'.pool.writers = shop.pool.writers.set i w') (inOrder : shop'.pool.InOrder)
    (before : InTurn errands d log' e') (kept : ∀ entry ∈ log, entry ∈ log')
    (idle : (∀ v ∈ shop'.pool.writers, ∀ n, v.standing ≠ .holding key n) → shop'.disk = e')
    (others : ∀ (j : Nat) v errand, j ≠ i → shop.pool.writers[j]? = some v → errand ∈ errands →
      Stands base errand e shop.disk v.toActivity → Stands base errand e' shop'.disk v.toActivity)
    (itself : ∃ errand, errands[i]? = some errand ∧ errand.path = w'.path ∧
      Stands base errand e' shop'.disk w'.toActivity)
    (logged : ∀ written, w'.rest = .done (.ok written) → (i, .ok written) ∈ log') :
    Served base key errands d shop' log' e' := by
  refine ⟨inOrder, before, idle, ?_, ?_⟩
  · rw [writers]
    refine forall_set (P := fun j v => shop.pool.writers[j]? = some v) (fun _ _ hj => hj) ?_ itself
    intro j v hji hj
    obtain ⟨errand, herrand, hpath, hstands⟩ := h.stands j v hj
    exact ⟨errand, herrand, hpath, others j v errand hji hj (List.mem_of_getElem? herrand) hstands⟩
  · rw [writers]
    have hnow : ∀ (j : Nat) v, (shop.pool.writers.set i w')[j]? = some v →
        ∀ written, v.rest = .done (.ok written) → (j, .ok written) ∈ log' :=
      forall_set (fun j v hj written => h.logged j v written hj)
        (fun _ _ _ hv written hrest => kept _ (hv written hrest)) logged
    exact fun j v written hj => hnow j v hj written

/-- A step that has nothing to do with the disk, nor with holding the lock. -/
theorem Served.pass (h : Served base key errands d shop log e)
    (writer : shop.pool.writers[i]? = some w)
    (writers : shop'.pool.writers = shop.pool.writers.set i w') (inOrder : shop'.pool.InOrder)
    (disk : shop'.disk = shop.disk)
    (apart : (∀ n, w.standing ≠ .holding key n) ∨ w'.standing = w.standing)
    (itself : ∃ errand, errands[i]? = some errand ∧ errand.path = w'.path ∧
      Stands base errand e shop.disk w'.toActivity)
    (logged : ∀ written, w'.rest ≠ .done (.ok written)) :
    Served base key errands d shop' log e := by
  refine h.set writers inOrder h.before (fun _ hentry => hentry) ?_ ?_ ?_ ?_
  · intro hidle
    rw [writers] at hidle
    rw [disk]
    refine h.idle fun v hv n hholds => ?_
    obtain ⟨j, hj⟩ := List.getElem?_of_mem hv
    by_cases hij : i = j
    · subst hij
      rw [writer] at hj
      cases hj
      rcases apart with hapart | hsame
      · exact hapart n hholds
      · have hlt := (List.getElem?_eq_some_iff.1 writer).1
        exact hidle w' (List.mem_set hlt _) n (hsame.trans hholds)
    · have hj' : (shop.pool.writers.set i w')[j]? = some v := by rw [List.getElem?_set_ne hij, hj]
      exact hidle v (List.mem_of_getElem? hj') n hholds
  · rw [disk]
    exact fun _ _ _ _ _ _ hstands => hstands
  · rw [disk]
    exact itself
  · exact fun written hrest => absurd hrest (logged written)

variable (hkey : ∀ errand ∈ errands, Path.absoluteFrom base errand.path = key)

include hkey

/-- While one of the calls holds the lock the disk does not matter to any other. -/
theorem Served.elsewhere (h : Served base key errands d shop log e)
    (writer : shop.pool.writers[i]? = some w) (holds : w.standing = .holding key n)
    (hji : j ≠ i) (hj : shop.pool.writers[j]? = some v) (herrand : errand ∈ errands)
    (hstands : Stands base errand e shop.disk v.toActivity) :
    Stands base errand e' d' v.toActivity := by
  refine hstands.elsewhere fun m hm => hji ?_
  rw [hkey errand herrand] at hm
  have hw := Pool.getElem?_standings writer
  have hv := Pool.getElem?_standings hj
  rw [holds] at hw
  rw [show v.standing = .holding key m from hm] at hv
  exact h.inOrder.sound.exclusive hv hw

theorem Served.work {call : Machine.Call}
    {next : Machine.Reply call → Script writing (Outcome Written)} {reply : Machine.Reply call}
    (h : Served base key errands d shop log e) (writer : shop.pool.writers[i]? = some w)
    (rest : w.rest = .ask (.inl call) next)
    (answer : attended w.path base w.isAbandoned call shop.disk reply d')
    (inOrder : (shop.pool.set i (w.goOn (next reply) w.standing)).InOrder) :
    Served base key errands d ⟨shop.pool.set i (w.goOn (next reply) w.standing), d'⟩ log e := by
  obtain ⟨errand, herrand, hpath, hstands⟩ := h.stands i w writer
  have hmem := List.mem_of_getElem? herrand
  have hlt := (List.getElem?_eq_some_iff.1 writer).1
  obtain ⟨a, path⟩ := w
  cases hstands with
  | fresh isAbandoned locked =>
    cases rest
    obtain ⟨rfl, rfl⟩ := answer
    exact h.pass writer rfl inOrder rfl (.inr rfl)
      ⟨errand, herrand, hpath, .located isAbandoned locked⟩ nofun
  | located => cases rest
  | waiting => cases rest
  | leaving => cases rest
  | ended => cases rest
  | holding n isAbandoned left locked reaches =>
    cases left with
    | done outcome => cases rest
    | ask call next =>
      cases rest
      have hfaulty := faulty_of_attended answer
      rw [← hpath] at hfaulty
      refine h.set rfl inOrder h.before (fun _ hentry => hentry) ?_ ?_
        ⟨errand, herrand, hpath, .holding n isAbandoned _ locked (reaches.answered hfaulty)⟩ ?_
      · intro hidle
        exact absurd (by rw [← hkey errand hmem]; rfl) (hidle _ (List.mem_set hlt _) n)
      · exact fun j v errand' hji hj herrand' =>
          h.elsewhere hkey writer (by rw [← hkey errand hmem]) hji hj herrand'
      · exact fun written hdone => absurd hdone serving_ne_done

theorem Served.deal {call : Locks.Call}
    {next : Locks.Reply call → Script writing (Outcome Written)} {reply : Locks.Reply call}
    {locks : Locks} (h : Served base key errands d shop log e)
    (writer : shop.pool.writers[i]? = some w) (rest : w.rest = .ask (.inr call) next)
    (inOrder : Pool.InOrder
      { shop.pool.set i (w.goOn (next reply) (w.standing.after call reply)) with locks }) :
    ∃ log' e', Served base key errands d
      ⟨{ shop.pool.set i (w.goOn (next reply) (w.standing.after call reply)) with locks },
        shop.disk⟩ log' e' := by
  obtain ⟨errand, herrand, hpath, hstands⟩ := h.stands i w writer
  have hmem := List.mem_of_getElem? herrand
  have hlt := (List.getElem?_eq_some_iff.1 writer).1
  obtain ⟨a, path⟩ := w
  cases hstands with
  | fresh => cases rest
  | ended => cases rest
  | located isAbandoned locked =>
    cases rest
    exact ⟨log, e, h.pass writer rfl inOrder rfl (.inl nofun)
      ⟨errand, herrand, hpath, .waiting _ isAbandoned locked⟩ nofun⟩
  | leaving n isAbandoned failure =>
    cases rest
    exact ⟨log, e, h.pass writer rfl inOrder rfl (.inl nofun)
      ⟨errand, herrand, hpath, .ended (.error failure) isAbandoned⟩ nofun⟩
  | waiting n isAbandoned locked =>
    cases rest
    -- Nobody held the lock, since this call has it now.
    have hnobody : ∀ v ∈ shop.pool.writers, ∀ m, v.standing ≠ .holding key m :=
      nobody_held writer nofun rfl inOrder (by rw [← hkey errand hmem]; rfl)
    have hdisk := h.idle hnobody
    refine ⟨log, e, h.set rfl inOrder h.before (fun _ hentry => hentry) ?_ ?_
      ⟨errand, herrand, hpath, .holding n isAbandoned _ locked ?_⟩ ?_⟩
    · intro hidle
      exact absurd (by rw [← hkey errand hmem]; rfl) (hidle _ (List.mem_set hlt _) n)
    · exact fun j v errand' hji hj herrand' hstands => hstands
    · change Script.Reaches _ _ e _ shop.disk
      rw [hdisk]
      exact .start
    · exact fun written hdone => absurd hdone serving_ne_done
  | holding n isAbandoned left locked reaches =>
    cases left with
    | ask call next => cases rest
    | done outcome =>
      cases rest
      have hrun : Procedure.Runs (faultyTask errand.path true) (errand.request.task errand.path) e
          outcome shop.disk := by
        rw [locked]
        exact runs_locked.2 (reaches.runs ⟨rfl, rfl⟩)
      refine ⟨log ++ [(i, outcome)], shop.disk, h.set rfl inOrder (h.before.next herrand hrun)
        (fun _ hentry => List.mem_append_left _ hentry) (fun _ => rfl) ?_
        ⟨errand, herrand, hpath, .ended outcome isAbandoned⟩ ?_⟩
      · exact fun j v errand' hji hj herrand' =>
          h.elsewhere hkey writer (by rw [← hkey errand hmem]) hji hj herrand'
      · rintro written hdone
        cases hdone
        simp

theorem Served.step (h : Served base key errands d shop log e) (hstep : Step base shop shop') :
    ∃ log' e', Served base key errands d shop' log' e' := by
  have hinOrder := h.inOrder.step hstep.pool
  cases hstep with
  | work writer rest answer => exact ⟨log, e, h.work hkey writer rest answer hinOrder⟩
  | deal writer rest isOpen answer => exact h.deal hkey writer rest hinOrder
  | @leave i w writer unfinished =>
    obtain ⟨errand, herrand, hpath, hstands⟩ := h.stands i w writer
    refine ⟨log, e, h.pass writer rfl hinOrder rfl (.inr Writer.standing_forsaken)
      ⟨errand, herrand, ?_, hstands.forsaken⟩ ?_⟩
    · rw [Writer.path_forsaken, hpath]
    · exact fun _ => Writer.forsaken_ne_done unfinished

theorem served_of_steps (h : Relation.ReflTransGen (Step base) (start errands d) shop) :
    ∃ log e, Served base key errands d shop log e := by
  induction h with
  | refl => exact ⟨[], d, served_start errands d⟩
  | tail _ hstep ih =>
    obtain ⟨log, e, hserved⟩ := ih
    exact hserved.step hkey hstep

omit hkey

/-! ## Some courses -/

theorem isOpen_lease {locks locks' : Locks} (free : locks.registry[key.text]? = none)
    (hlease : locks.lease key = (n, locks')) : locks'.isOpen (.hold n) = true := by
  rw [Locks.lease, free] at hlease
  cases hlease
  simp [Locks.isOpen, Locks.lock]

/-- A call obtains a lock that nobody leases. -/
theorem steps_obtain {path : Path} {job : Job Written} {isAbandoned : Bool} {locks : Locks}
    (writer : shop.pool.writers[i]? = some
      ⟨⟨.ask (.inl .workingDirectory) fun reply => leasing (Path.absoluteFrom reply path) job,
        .apart, isAbandoned⟩, path⟩)
    (hkey : Path.absoluteFrom base path = key) (free : shop.pool.locks.registry[key.text]? = none)
    (hlease : shop.pool.locks.lease key = (n, locks)) :
    Relation.ReflTransGen (Step base) shop
      ⟨{ shop.pool.set i ⟨⟨serving key n job.run, .holding key n, isAbandoned⟩, path⟩ with
          locks := locks.hold n }, shop.disk⟩ := by
  have hlt := (List.getElem?_eq_some_iff.1 writer).1
  have hself : ∀ {writers : List Writer} {w : Writer}, writers.length = shop.pool.writers.length →
      (writers.set i w)[i]? = some w := fun hlength => List.getElem?_set_self (hlength ▸ hlt)
  have hhere : attended path base isAbandoned .workingDirectory shop.disk base shop.disk :=
    ⟨rfl, rfl⟩
  subst hkey
  refine .head (.work writer rfl hhere) ?_
  refine .head (.deal (i := i) (hself rfl) rfl rfl hlease) ?_
  refine .head (.deal (i := i) (hself (by simp [Pool.set])) rfl (isOpen_lease free hlease) rfl) ?_
  simp only [Pool.set, Writer.goOn, List.set_set]
  exact .refl

/-- A job that holds its lock may go on as it does alone. -/
theorem steps_of_reaches {rest rest' : Script machine (Outcome Written)}
    (writer : shop.pool.writers[i]? = some w) (serves : w.rest = serving key n rest)
    (reaches : rest.Reaches (attended w.path base w.isAbandoned) shop.disk rest' d) :
    Relation.ReflTransGen (Step base) shop
      ⟨shop.pool.set i (w.goOn (serving key n rest') w.standing), d⟩ := by
  have hlt := (List.getElem?_eq_some_iff.1 writer).1
  induction reaches with
  | start =>
    have hsame : shop.pool.set i (w.goOn (serving key n rest) w.standing) = shop.pool := by
      rw [← serves, Pool.set, show w.goOn w.rest w.standing = w from rfl,
        ← (List.getElem?_eq_some_iff.1 writer).2, List.set_getElem_self]
    rw [hsame]
  | @answered call next t u reply _ hstep ih =>
    have hwork : Step base
        ⟨shop.pool.set i (w.goOn (serving key n (.ask call next)) w.standing), t⟩
        ⟨(shop.pool.set i (w.goOn (serving key n (.ask call next)) w.standing)).set i
          (w.goOn (serving key n (next reply)) w.standing), u⟩ :=
      .work (i := i) (w := w.goOn (serving key n (.ask call next)) w.standing)
        (List.getElem?_set_self hlt) rfl hstep
    have hset : ∀ v, (shop.pool.set i v).set i (w.goOn (serving key n (next reply)) w.standing) =
        shop.pool.set i (w.goOn (serving key n (next reply)) w.standing) := by
      intro v
      simp only [Pool.set, List.set_set]
    rw [hset] at hwork
    exact ih.tail hwork

end

end Workshop

end SchemaCodegen.Output
