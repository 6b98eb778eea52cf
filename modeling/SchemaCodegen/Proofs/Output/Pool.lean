import SchemaCodegen.Proofs.Output.Crowd
import SchemaCodegen.Proofs.Output.Registry
import SchemaCodegen.Proofs.Script.Interleaving

/-!
# Calls to any paths

Any number of calls, each to a path of its own, share their locks: they come in at any time, go on
question by question in any order, and their callers may go away. All that a call does with locks is
lease that of its path, wait for it and give it back (`tidy_task`), also where its caller goes away
(`Writer.Keeps.forsaken`). So at every moment the locks are sound, and when no call has a lease left
none is registered (`Pool.leases_settle`).
-/

namespace SchemaCodegen.Output

/-! ## What a call does with locks -/

namespace Standing

/-- What becomes of a caller's standing when it is told something about locks. -/
def after (s : Standing) : (call : Locks.Call) → Locks.Reply call → Standing
  | .lease key, n => .waiting key n
  | .hold _, _ =>
    match s with
    | .waiting key n => .holding key n
    | s => s
  | .release _ _ _, _ => .apart

/-- What a caller with this standing may ask about locks if its path is the given one. -/
def Allows (path : Path) (s : Standing) : Locks.Call → Prop
  | .lease key => s = .apart ∧ ∃ base, key = Path.absoluteFrom base path
  | .hold n => ∃ key, s = .waiting key n
  | .release key n isHeld => s = if isHeld then .holding key n else .waiting key n

/-- Only what is told about locks matters. -/
def step : writing.Step Standing
  | .inl _, s, _, s' => s' = s
  | .inr call, s, reply, s' => s' = s.after call reply

def permits (path : Path) : writing.Call → Standing → Prop
  | .inl _, _ => True
  | .inr call, s => s.Allows path call

/-- A caller never comes to lease the lock of another path. -/
theorem key_after {path : Path} {call : Locks.Call} {reply : Locks.Reply call} {s : Standing}
    (allowed : s.Allows path call)
    (hs : ∀ key, s.key? = some key → ∃ base, key = Path.absoluteFrom base path) :
    ∀ key, (s.after call reply).key? = some key → ∃ base, key = Path.absoluteFrom base path := by
  intro key hkey
  cases call with
  | lease other =>
    cases hkey
    exact allowed.2
  | hold n =>
    obtain ⟨other, rfl⟩ := allowed
    exact hs key hkey
  | release => cases hkey

end Standing

/-- From this standing on a script deals with locks as it should, and at its end it leases none. -/
abbrev Tidy {α : Type} (path : Path) (m : Script writing α) (s : Standing) : Prop :=
  m.Follows Standing.step (Standing.permits path) (fun _ t => t = .apart) s

theorem tidy_serving {path key : Path} {n : Nat} (rest : Script machine (Outcome Written)) :
    Tidy path (serving key n rest) (.holding key n) := by
  have hrest : rest.left.Follows Standing.step (Standing.permits path)
      (fun _ t => t = .holding key n) (.holding key n) :=
    .left (.of_asks rest.asks_mayAsk fun _ _ => ⟨trivial, fun _ _ h => h⟩)
  refine .bind hrest fun outcome t ht => ?_
  rw [ht]
  exact ⟨rfl, fun _ t ht => ht⟩

theorem tidy_task (path : Path) (request : Request) :
    Tidy path (request.task path).run .apart := by
  rcases request.task_cases path with ⟨failure, hrefused⟩ | hlocked
  · rw [hrefused]
    rfl
  · rw [hlocked]
    refine ⟨trivial, fun base t ht => ?_⟩
    rw [show t = .apart from ht]
    refine ⟨⟨rfl, base, rfl⟩, fun n t ht => ?_⟩
    rw [show t = .waiting _ n from ht]
    refine ⟨⟨_, rfl⟩, fun _ t ht => ?_⟩
    rw [show t = .holding _ n from ht]
    exact tidy_serving (request.job path).run

/-! ## Calls to any paths -/

/-- A call to write a path. -/
structure Writer extends Activity where
  path : Path

namespace Writer

def start (path : Path) (request : Request) : Writer :=
  ⟨⟨(request.task path).run, .apart, false⟩, path⟩

/-- Only a caller who has gone away is told so. -/
def IsTold (w : Writer) : (call : Machine.Call) → Machine.Reply call → Prop
  | .isCancelled, reply => reply = w.isAbandoned
  | _, _ => True

/-- The call goes on, as it stands to the lock of its path. -/
def goOn (w : Writer) (rest : Script writing (Outcome Written)) (standing : Standing) : Writer :=
  { w with rest, standing }

/-- What is left of a call whose caller goes away. If it waits it has still to give back its lease,
and if it holds the lock it goes on. -/
def forsaken (w : Writer) : Writer :=
  let gone : Outcome Written := .error (cancelled w.path)
  match w.standing with
  | .apart => { w with rest := .done gone, isAbandoned := true }
  | .waiting key n =>
    { w with rest := .ask (.inr (.release key n false)) fun _ => .done gone, isAbandoned := true }
  | .holding _ _ => { w with isAbandoned := true }

/-- The call deals with locks as it should, and the lock that it leases is that of its path. -/
structure Keeps (w : Writer) : Prop where
  tidy : Tidy w.path w.rest w.standing
  key : ∀ key, w.standing.key? = some key → ∃ base, key = Path.absoluteFrom base w.path

section

variable {w : Writer}

theorem keeps_start (path : Path) (request : Request) : (start path request).Keeps :=
  ⟨tidy_task path request, nofun⟩

theorem Keeps.work {call : Machine.Call}
    {next : Machine.Reply call → Script writing (Outcome Written)} (h : w.Keeps)
    (rest : w.rest = .ask (.inl call) next) (reply : Machine.Reply call) :
    (w.goOn (next reply) w.standing).Keeps := by
  have htidy := h.tidy
  rw [rest] at htidy
  exact ⟨htidy.2 reply _ rfl, h.key⟩

theorem Keeps.allows {call : Locks.Call}
    {next : Locks.Reply call → Script writing (Outcome Written)} (h : w.Keeps)
    (rest : w.rest = .ask (.inr call) next) : w.standing.Allows w.path call := by
  have htidy := h.tidy
  rw [rest] at htidy
  exact htidy.1

theorem Keeps.deal {call : Locks.Call}
    {next : Locks.Reply call → Script writing (Outcome Written)} (h : w.Keeps)
    (rest : w.rest = .ask (.inr call) next) (reply : Locks.Reply call) :
    (w.goOn (next reply) (w.standing.after call reply)).Keeps := by
  have htidy := h.tidy
  rw [rest] at htidy
  exact ⟨htidy.2 reply _ rfl, Standing.key_after htidy.1 h.key⟩

theorem Keeps.apart {outcome : Outcome Written} (h : w.Keeps) (rest : w.rest = .done outcome) :
    w.standing = .apart := by
  have htidy := h.tidy
  rw [rest] at htidy
  exact htidy

theorem standing_forsaken : w.forsaken.standing = w.standing := by
  unfold forsaken
  split <;> rfl

theorem Keeps.forsaken (h : w.Keeps) : w.forsaken.Keeps := by
  obtain ⟨⟨rest, standing, isAbandoned⟩, path⟩ := w
  constructor
  case tidy =>
    cases standing with
    | apart => rfl
    | waiting key n => exact ⟨rfl, fun _ _ ht => ht⟩
    | holding key n => exact h.tidy
  case key =>
    rw [standing_forsaken]
    cases standing <;> exact h.key

end

end Writer

/-- Calls, in the order in which they came in, and the locks that they share. -/
structure Pool where
  locks : Locks
  writers : List Writer

namespace Pool

/-- One of the calls has come further. -/
def set (pool : Pool) (i : Nat) (w : Writer) : Pool :=
  { pool with writers := pool.writers.set i w }

def standings (pool : Pool) : List Standing :=
  pool.writers.map fun w => w.standing

/-- A call comes in, one of the calls goes on by one question, or its caller goes away. -/
inductive Step (pool : Pool) : Pool → Prop where
  | enter (path : Path) (request : Request) :
      Step pool { pool with writers := pool.writers ++ [.start path request] }
  | work {i : Nat} {w : Writer} {call : Machine.Call}
      {next : Machine.Reply call → Script writing (Outcome Written)} {reply : Machine.Reply call}
      (writer : pool.writers[i]? = some w) (rest : w.rest = .ask (.inl call) next)
      (told : w.IsTold call reply) : Step pool (pool.set i (w.goOn (next reply) w.standing))
  | deal {i : Nat} {w : Writer} {call : Locks.Call}
      {next : Locks.Reply call → Script writing (Outcome Written)} {reply : Locks.Reply call}
      {locks : Locks} (writer : pool.writers[i]? = some w) (rest : w.rest = .ask (.inr call) next)
      (isOpen : pool.locks.isOpen call = true)
      (answer : Locks.answer call pool.locks = (reply, locks)) :
      Step pool { pool.set i (w.goOn (next reply) (w.standing.after call reply)) with locks }
  | leave {i : Nat} {w : Writer} (writer : pool.writers[i]? = some w)
      (unfinished : ∀ outcome, w.rest ≠ .done outcome) : Step pool (pool.set i w.forsaken)

/-- The locks are sound, and every call keeps to what a call may do. -/
structure InOrder (pool : Pool) : Prop where
  sound : pool.locks.Sound pool.standings
  keeps : ∀ w ∈ pool.writers, w.Keeps

section

variable {pool pool' : Pool} {i : Nat} {w w' : Writer}

theorem getElem?_standings (hi : pool.writers[i]? = some w) :
    pool.standings[i]? = some w.standing := by
  rw [standings, List.getElem?_map, hi]
  rfl

theorem standings_set : (pool.set i w').standings = pool.standings.set i w'.standing :=
  List.map_set

theorem standings_set_of_eq (hi : pool.writers[i]? = some w) (h : w'.standing = w.standing) :
    (pool.set i w').standings = pool.standings := by
  obtain ⟨hlt, hstanding⟩ := List.getElem?_eq_some_iff.1 (getElem?_standings hi)
  rw [standings_set, h, ← hstanding, List.set_getElem_self]

theorem InOrder.keeps_set (h : pool.InOrder) (hw : w'.Keeps) :
    ∀ w ∈ (pool.set i w').writers, w.Keeps := by
  intro w hmem
  rcases List.mem_or_eq_of_mem_set hmem with hmem | rfl
  · exact h.keeps w hmem
  · exact hw

/-- What a call is told about locks leaves them sound, as long as it may ask for it. -/
theorem InOrder.sound_answer (h : pool.InOrder) (hi : pool.writers[i]? = some w)
    {call : Locks.Call} (allowed : w.standing.Allows w.path call)
    (isOpen : pool.locks.isOpen call = true) :
    (Locks.answer call pool.locks).2.Sound
      (pool.standings.set i (w.standing.after call (Locks.answer call pool.locks).1)) := by
  have hi' := getElem?_standings hi
  cases call with
  | lease key =>
    rw [allowed.1] at hi'
    exact h.sound.lease hi'
  | hold n =>
    obtain ⟨key, hwaiting⟩ := allowed
    rw [hwaiting] at hi' ⊢
    exact h.sound.hold hi' isOpen
  | release key n isHeld =>
    rw [show w.standing = _ from allowed] at hi'
    exact h.sound.release isHeld hi'

theorem InOrder.step (h : pool.InOrder) (hstep : Step pool pool') : pool'.InOrder := by
  have hkeeps : ∀ {i : Nat} {w}, pool.writers[i]? = some w → w.Keeps :=
    fun hi => h.keeps _ (List.mem_of_getElem? hi)
  cases hstep with
  | enter path request =>
    constructor
    case sound =>
      have hstandings : standings { pool with writers := pool.writers ++ [.start path request] } =
          pool.standings ++ [.apart] := List.map_append
      rw [hstandings]
      exact h.sound.concat
    case keeps =>
      intro w hw
      rcases List.mem_append.1 hw with hw | hw
      · exact h.keeps w hw
      · rw [List.mem_singleton.1 hw]
        exact Writer.keeps_start path request
  | @work i w call next reply writer rest told =>
    have hsame : (pool.set i (w.goOn (next reply) w.standing)).standings = pool.standings :=
      standings_set_of_eq writer rfl
    exact ⟨hsame ▸ h.sound, h.keeps_set ((hkeeps writer).work rest reply)⟩
  | @deal i w call next reply locks writer rest isOpen answer =>
    have hset : (pool.set i (w.goOn (next reply) (w.standing.after call reply))).standings =
        pool.standings.set i (w.standing.after call reply) := standings_set
    have hsound := h.sound_answer writer ((hkeeps writer).allows rest) isOpen
    rw [answer] at hsound
    exact ⟨hset ▸ hsound, h.keeps_set ((hkeeps writer).deal rest reply)⟩
  | @leave i w writer unfinished =>
    have hsame := standings_set_of_eq writer Writer.standing_forsaken
    exact ⟨hsame ▸ h.sound, h.keeps_set (hkeeps writer).forsaken⟩

theorem inOrder_of_steps (h : Relation.ReflTransGen Step ⟨default, []⟩ pool) : pool.InOrder := by
  induction h with
  | refl => exact ⟨.nil, fun _ hw => nomatch hw⟩
  | tail _ hstep ih => exact ih.step hstep

/-- At every moment a call asks about locks only what it may, leases the lock of no other path, and
leases none when it is through. At most one of the calls to a path holds its lock; all who wait for
the lock or hold it have the one that is registered, which counts them; and it is registered exactly
as long as somebody leases it. -/
theorem leases_settle (h : Relation.ReflTransGen Step ⟨default, []⟩ pool) :
    (∀ w ∈ pool.writers,
      (∀ call next, w.rest = .ask (.inr call) next → w.standing.Allows w.path call) ∧
      (∀ key, w.standing.key? = some key → ∃ base, key = Path.absoluteFrom base w.path) ∧
      ∀ outcome, w.rest = .done outcome → w.standing = .apart) ∧
    (∀ (i j : Nat) v w key key' m n, pool.writers[i]? = some v → pool.writers[j]? = some w →
      v.standing = .holding key m → w.standing = .holding key' n →
      key.components = key'.components → i = j) ∧
    (∀ w ∈ pool.writers, ∀ key n, w.standing = .waiting key n ∨ w.standing = .holding key n →
      pool.locks.registry[key.text]? = some n) ∧
    (∀ key n, pool.locks.registry[Path.text key]? = some n →
      (pool.locks.lock n).leases = pool.writers.countP (fun w => w.standing.key? = some key) ∧
      ((pool.locks.lock n).held = true ↔ ∃ w ∈ pool.writers, w.standing = .holding key n)) ∧
    (∀ key, Path.text key ∈ pool.locks.registry ↔
      ∃ w ∈ pool.writers, w.standing.key? = some key) ∧
    ((∀ w ∈ pool.writers, w.standing = .apart) → pool.locks.registry = ∅) := by
  obtain ⟨hsound, hkeeps⟩ := inOrder_of_steps h
  refine ⟨fun w hw => ⟨fun _ _ => (hkeeps w hw).allows, (hkeeps w hw).key,
    fun _ => (hkeeps w hw).apart⟩, ?exclusive, ?registered, ?lock, ?inUse, ?empty⟩
  case exclusive =>
    intro i j v w key key' m n hi hj hv hw hcomponents
    obtain ⟨base, hkey⟩ := (hkeeps v (List.mem_of_getElem? hi)).key key (by rw [hv]; rfl)
    obtain ⟨base', hkey'⟩ := (hkeeps w (List.mem_of_getElem? hj)).key key' (by rw [hw]; rfl)
    have hsame : key = key' := by
      rw [hkey, hkey'] at hcomponents ⊢
      exact Path.absoluteFrom_eq_iff.2 hcomponents
    exact hsound.exclusive (hv ▸ getElem?_standings hi) (hsame ▸ hw ▸ getElem?_standings hj)
  case registered =>
    intro w hw key n hleased
    obtain ⟨i, hi⟩ := List.getElem?_of_mem hw
    exact hsound.registered (getElem?_standings hi) hleased
  case lock =>
    intro key n hn
    obtain ⟨hleases, hheld⟩ := hsound.lock_eq hn
    rw [standings, List.countP_map] at hleases
    rw [standings, List.mem_map] at hheld
    exact ⟨hleases, hheld⟩
  case inUse =>
    intro key
    rw [hsound.mem_registry_iff, standings]
    simp only [List.mem_map, exists_exists_and_eq_and]
  case empty =>
    intro hapart
    exact hsound.registry_eq_empty (List.forall_mem_map.2 hapart)

end

/-! Two of three calls name the same file, and the caller of one of them goes away. -/

section ThreeWriters

/-- A call waits for the lock of its path. -/
def waiting (path key : Path) (n : Nat) : Writer :=
  ⟨⟨.ask (.inr (.hold n)) fun _ => serving key n (replaceContent path "").run, .waiting key n,
    false⟩, path⟩

theorem set_last (locks : Locks) (writers : List Writer) (w w' : Writer) :
    Pool.set ⟨locks, writers ++ [w]⟩ writers.length w' = ⟨locks, writers ++ [w']⟩ := by
  simp [Pool.set]

theorem steps_waiting {before locks : Locks} {writers : List Writer} {key : Path} {n : Nat}
    (path : Path) (hvalid : checkPath path = .ok ()) (hkey : Path.absoluteFrom ⟨"/"⟩ path = key)
    (hlease : before.lease key = (n, locks)) :
    Relation.ReflTransGen Step ⟨before, writers⟩ ⟨locks, writers ++ [waiting path key n]⟩ := by
  subst hkey
  have hstart : Writer.start path (.write "") =
      ⟨⟨.ask (.inl .workingDirectory) fun base =>
        leasing (Path.absoluteFrom base path) (replaceContent path ""), .apart, false⟩, path⟩ := by
    unfold Writer.start Request.task Output.write
    rw [hvalid]
    rfl
  have hlast : ∀ w : Writer, (writers ++ [w])[writers.length]? = some w :=
    fun _ => List.getElem?_concat_length
  refine .head (.enter path (.write "")) ?_
  rw [hstart]
  have htold : ∀ w : Writer, w.IsTold .workingDirectory (⟨"/"⟩ : Path) := fun _ => trivial
  refine .head (.work (hlast _) rfl (htold _)) ?_
  rw [set_last]
  refine .head (.deal (hlast _) rfl rfl hlease) ?_
  rw [set_last]
  exact .refl

/-- The first call holds the lock of the file, the second one is left while it waits for it, and the
third one waits for the lock of another file. -/
theorem leases_settle_shared : ∃ pool : Pool, Relation.ReflTransGen Step ⟨default, []⟩ pool ∧
    pool.standings = [.holding ⟨"/f"⟩ 0, .waiting ⟨"/f"⟩ 0, .waiting ⟨"/g"⟩ 1] ∧
    pool.locks.registry["/f"]? = some 0 ∧ pool.locks.registry["/g"]? = some 1 ∧
    "/h" ∉ pool.locks.registry := by
  let registry : Std.ExtTreeMap String Nat := (∅ : Std.ExtTreeMap String Nat).insert "/f" 0
  let both : Locks := ⟨registry.insert "/g" 1, [⟨2, false⟩, ⟨1, false⟩]⟩
  have hlease : Locks.lease default ⟨"/f"⟩ = (0, ⟨registry, [⟨1, false⟩]⟩) := rfl
  have hlease' : Locks.lease ⟨registry, [⟨1, false⟩]⟩ ⟨"/f"⟩ = (0, ⟨registry, [⟨2, false⟩]⟩) := by
    simp [Locks.lease, registry]
  have hlease'' : Locks.lease ⟨registry, [⟨2, false⟩]⟩ ⟨"/g"⟩ = (1, both) := by
    simp [Locks.lease, registry, both]
  have hfirst : Relation.ReflTransGen Step ⟨default, []⟩
      ⟨⟨registry, [⟨1, false⟩]⟩, [waiting ⟨"f"⟩ ⟨"/f"⟩ 0]⟩ :=
    steps_waiting ⟨"f"⟩ (by decide) (by decide) hlease
  have hsecond := hfirst.trans
    (steps_waiting ⟨"./f"⟩ (by decide) (by decide) hlease')
  have hthird := hsecond.trans
    (steps_waiting ⟨"g"⟩ (by decide) (by decide) hlease'')
  have hheld := hthird.tail (.deal (i := 0) rfl rfl rfl rfl)
  have hleft := hheld.tail (.leave (i := 1) rfl (by simp [waiting]))
  obtain ⟨-, -, hregistered, -, hmem, -⟩ := leases_settle hleft
  refine ⟨_, hleft, rfl, ?_, ?_, fun hother => ?_⟩
  · exact hregistered _ (List.mem_of_getElem? (i := 0) rfl) ⟨"/f"⟩ 0 (.inr rfl)
  · exact hregistered _ (List.mem_of_getElem? (i := 2) rfl) ⟨"/g"⟩ 1 (.inl rfl)
  · obtain ⟨w, hw, hkey⟩ := (hmem ⟨"/h"⟩).1 hother
    have hkeys : ∀ s ∈ [Standing.holding ⟨"/f"⟩ 0, .waiting ⟨"/f"⟩ 0, .waiting ⟨"/g"⟩ 1],
        s.key? ≠ some ⟨"/h"⟩ := by decide
    exact hkeys w.standing (List.mem_map_of_mem (f := fun w : Writer => w.standing) hw) hkey

end ThreeWriters

end Pool

end SchemaCodegen.Output
