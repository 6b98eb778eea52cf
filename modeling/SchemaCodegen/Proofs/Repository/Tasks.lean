import SchemaCodegen.Metadata.Bookkeeping
import SchemaCodegen.Proofs.Repository.Storage
import SchemaCodegen.Proofs.Script.Interleaving

/-!
# Tasks that keep the books

Several tasks keep the books of one repository, which answers each call at once; between two calls
of a task others may use it. Every task asks by the same rules (`follows_request`): what it persists
is what it has loaded before, synced, and when it reports stamps it has put them. What a task has
loaded and put can be told from the log (`mem_of_loaded`, `mem_of_marked`).
-/

namespace SchemaCodegen.Bookkeeping

open Repository (Storage)

/-! ## Keeping the books -/

/-- What can be requested. Records that are given have times that a clock can show. -/
inductive Request where
  | load
  | sync (snapshot : Snapshot)
  | changedTablesCount
  | markAllGenerated (keys : List String)
  | markGenerated (schema table : String)
  | recordHistory (records : List HistoryRecord)
    (timely : ∀ r ∈ records, r.generatedAt.IsSupported)
  | history (table : Option String)
  | plan (result : SyncResult) (includeUnchanged : Bool)

namespace Request

def Reply : Request → Type
  | load => Metadata
  | sync _ => SyncResult
  | changedTablesCount => Nat
  | markAllGenerated _ => Unit
  | markGenerated _ _ => Unit
  | recordHistory _ _ => Unit
  | history _ => List HistoryRecord
  | plan _ _ => GenerationPlan

def procedure : (request : Request) → Bookkeeping request.Reply
  | load => Bookkeeping.load
  | sync snapshot => Bookkeeping.sync snapshot
  | changedTablesCount => Bookkeeping.changedTablesCount
  | markAllGenerated keys => Bookkeeping.markAllGenerated keys
  | markGenerated schema table => Bookkeeping.markGenerated schema table
  | recordHistory records _ => Bookkeeping.recordHistory records
  | history table => Bookkeeping.history table
  | plan result includeUnchanged => Bookkeeping.plan result includeUnchanged

end Request

def service : Service bookkeeping where
  Request := Request
  Reply request := Outcome request.Reply
  script request := request.procedure.run

/-- A clock shows a time that it can show. -/
def Shows : (call : bookkeeping.Call) → bookkeeping.Reply call → Prop
  | .inl .clock, reply => Instant.IsSupported reply
  | _, _ => True

/-- The repository answers at once; the machine tells times and identities. -/
def books (storage : Storage) : bookkeeping.Step storage.State :=
  Interface.Step.sum (fun call s reply s' => Shows (.inl call) reply ∧ s' = s) storage.step

theorem shows_of_books {storage : Storage} {call : bookkeeping.Call} {s s' : storage.State}
    {reply : bookkeeping.Reply call} (h : books storage call s reply s') : Shows call reply := by
  cases call with
  | inl call => exact h.1
  | inr call => trivial

/-! ## What a task may ask -/

/-- What a task has loaded last, and which stamps it has put last. -/
structure Account where
  loaded : Option Metadata
  marked : Option (List String × Instant)

def Account.note (a : Account) : (call : bookkeeping.Call) → bookkeeping.Reply call → Account
  | .inr .load, reply =>
    match (reply : Outcome Metadata) with
    | .ok m => { a with loaded := some m }
    | .error _ => a
  | .inr (.markGenerated keys time), reply =>
    match (reply : Outcome Unit) with
    | .ok _ => { a with marked := some (keys, time) }
    | .error _ => a
  | _, _ => a

def noting : bookkeeping.Step Account := fun call a reply a' =>
  Shows call reply ∧ a' = a.note call reply

/-- What is persisted was loaded and then synced. -/
def Allowed : bookkeeping.Call → Account → Prop
  | .inr (.persist m), a => ∃ loaded fresh now snapshot, a.loaded = some loaded ∧
      Instant.IsSupported now ∧ m = (loaded.sync fresh now snapshot).1
  | .inr call, _ => call.IsTimely
  | .inl _, _ => True

/-- Who reports stamps has put them. -/
def Request.Settles : (request : Request) → Outcome request.Reply → Account → Prop
  | .markAllGenerated keys, outcome, a =>
    outcome = Except.ok () → keys ≠ [] → ∃ time, a.marked = some (keys, time)
  | _, _, _ => True

section Protocol

variable {a : Account}

theorem follows_ask {call : Repository.Call} {final : Repository.Reply call → Account → Prop}
    (h : Allowed (.inr call) a) (hfinal : ∀ reply, final reply (a.note (.inr call) reply)) :
    (ask call).Follows noting Allowed final a :=
  .right (.call h fun reply _ ht => ht.2 ▸ hfinal reply)

theorem follows_machine {call : Machine.Call}
    {final : Outcome (Machine.Reply call) → Account → Prop}
    (h : ∀ reply, Shows (.inl call) reply → final (.ok reply) a) :
    (ofJob (Job.ask call)).run.Follows noting Allowed final a :=
  ⟨trivial, fun reply _ ht => ht.2 ▸ h reply ht.1⟩

theorem follows_sync (snapshot : Snapshot) :
    (sync snapshot).run.Follows noting Allowed (fun _ _ => True) a := by
  refine Procedure.follows_bind (follows_ask trivial fun reply => ?_)
  cases reply with
  | error failure => trivial
  | ok m =>
    refine Procedure.follows_bind (follows_machine fun now hnow => ?_)
    refine Procedure.follows_bind (follows_machine fun fresh _ => ?_)
    exact Procedure.follows_bind (follows_ask ⟨m, fresh, now, snapshot, rfl, hnow, rfl⟩
      fun reply => by cases reply <;> trivial)

theorem follows_markAllGenerated (keys : List String) :
    (markAllGenerated keys).run.Follows noting Allowed
      (fun outcome a => outcome = .ok () → keys ≠ [] → ∃ time, a.marked = some (keys, time)) a := by
  unfold markAllGenerated
  split
  · next hempty => exact fun _ hne => absurd (List.isEmpty_iff.1 hempty) hne
  · refine Procedure.follows_bind (follows_machine fun now hnow => ?_)
    refine follows_ask hnow fun reply => ?_
    cases reply with
    | error failure => exact fun hnever => nomatch hnever
    | ok _ => exact fun _ _ => ⟨now, rfl⟩

theorem follows_recordHistory {records : List HistoryRecord}
    (timely : ∀ r ∈ records, r.generatedAt.IsSupported) :
    (recordHistory records).run.Follows noting Allowed (fun _ _ => True) a := by
  unfold recordHistory
  split
  · trivial
  · exact follows_ask timely fun _ => trivial

theorem follows_plan (result : SyncResult) (includeUnchanged : Bool) :
    (plan result includeUnchanged).run.Follows noting Allowed (fun _ _ => True) a := by
  refine Procedure.follows_bind (follows_ask trivial fun reply => ?_)
  cases reply with
  | error failure => trivial
  | ok m => exact Procedure.follows_bind (follows_machine fun now _ => trivial)

/-- Every request is served by the rules. -/
theorem follows_request (request : Request) (a : Account) :
    request.procedure.run.Follows noting Allowed request.Settles a := by
  cases request with
  | load => exact follows_ask trivial fun _ => trivial
  | sync snapshot => exact follows_sync snapshot
  | changedTablesCount =>
    exact Procedure.follows_bind (follows_ask trivial fun reply => by cases reply <;> trivial)
  | markAllGenerated keys => exact follows_markAllGenerated keys
  | markGenerated schema table =>
    exact (follows_markAllGenerated [tableKey schema table]).mono fun _ _ _ => trivial
  | recordHistory records timely => exact follows_recordHistory timely
  | history table => exact follows_ask trivial fun _ => trivial
  | plan result includeUnchanged => exact follows_plan result includeUnchanged

end Protocol

/-! ## Logs -/

/-- The task `i` has loaded the metadata. -/
def loads (i : Nat) (m : Metadata) : Event bookkeeping :=
  ⟨i, .inr .load, (.ok m : Outcome Metadata)⟩

def persists (i : Nat) (m : Metadata) : Event bookkeeping :=
  ⟨i, .inr (.persist m), (.ok () : Outcome Unit)⟩

def marks (i : Nat) (keys : List String) (time : Instant) : Event bookkeeping :=
  ⟨i, .inr (.markGenerated keys time), (.ok () : Outcome Unit)⟩

/-- The account of a task after what was asked. -/
def Account.after (a : Account) (log : List (Event bookkeeping)) (i : Nat) : Account :=
  log.foldl (fun a event => if event.task = i then a.note event.call event.reply else a) a

def accountOf (log : List (Event bookkeeping)) (i : Nat) : Account :=
  Account.after ⟨none, none⟩ log i

section Logs

variable {log events : List (Event bookkeeping)} {i : Nat} {m : Metadata} {keys : List String}
  {time : Instant}

theorem accountOf_append_of_ne (h : ∀ event ∈ events, event.task ≠ i) :
    accountOf (log ++ events) i = accountOf log i := by
  have hkept : ∀ a : Account, a.after events i = a := by
    induction events with
    | nil => exact fun _ => rfl
    | cons event events ih =>
      intro a
      rw [Account.after, List.foldl_cons, if_neg (h event List.mem_cons_self)]
      exact ih (fun event hevent => h event (List.mem_cons_of_mem _ hevent)) a
  rw [accountOf, Account.after, List.foldl_append]
  exact hkept _

theorem accountOf_concat (call : bookkeeping.Call) (reply : bookkeeping.Reply call) :
    accountOf (log ++ [⟨i, call, reply⟩]) i = (accountOf log i).note call reply := by
  rw [accountOf, Account.after, List.foldl_append, List.foldl_cons, List.foldl_nil, if_pos rfl]
  rfl

theorem eq_loads_of_note {a : Account} {call : bookkeeping.Call} {reply : bookkeeping.Reply call}
    (h : (a.note call reply).loaded = some m) :
    a.loaded = some m ∨ ⟨i, call, reply⟩ = loads i m := by
  rcases call with call | call
  · exact .inl h
  · cases call with
    | load =>
      cases reply with
      | error failure => exact .inl h
      | ok metadata =>
        cases h
        exact .inr rfl
    | markGenerated keys time =>
      cases reply with
      | error failure => exact .inl h
      | ok _ => exact .inl h
    | _ => exact .inl h

theorem eq_marks_of_note {a : Account} {call : bookkeeping.Call} {reply : bookkeeping.Reply call}
    (h : (a.note call reply).marked = some (keys, time)) :
    a.marked = some (keys, time) ∨ ⟨i, call, reply⟩ = marks i keys time := by
  rcases call with call | call
  · exact .inl h
  · cases call with
    | load =>
      cases reply with
      | error failure => exact .inl h
      | ok metadata => exact .inl h
    | markGenerated keys time =>
      cases reply with
      | error failure => exact .inl h
      | ok _ =>
        cases h
        exact .inr rfl
    | _ => exact .inl h

/-- What an account shows was in it before or is in the log. -/
theorem mem_of_after {α : Type} {part : Account → Option α} {a : α} {made : Event bookkeeping}
    (hnote : ∀ b call reply, part (Account.note b call reply) = some a →
      part b = some a ∨ ⟨i, call, reply⟩ = made) {b : Account}
    (h : part (b.after log i) = some a) : part b = some a ∨ made ∈ log := by
  induction log generalizing b with
  | nil => exact .inl h
  | cons event log ih =>
    rcases ih h with hb | hmem
    · dsimp only at hb
      split at hb
      · next htask =>
        rcases hnote b event.call event.reply hb with hb | hmade
        · exact .inl hb
        · right
          rw [← hmade, ← htask]
          exact List.mem_cons_self
      · exact .inl hb
    · exact .inr (List.mem_cons_of_mem _ hmem)

theorem mem_of_loaded (h : (accountOf log i).loaded = some m) : loads i m ∈ log :=
  (mem_of_after (fun _ _ _ => eq_loads_of_note) h).resolve_left fun hnever => nomatch hnever

theorem mem_of_marked (h : (accountOf log i).marked = some (keys, time)) :
    marks i keys time ∈ log :=
  (mem_of_after (fun _ _ _ => eq_marks_of_note) h).resolve_left fun hnever => nomatch hnever

end Logs

/-! ## Courses -/

section Courses

variable {storage : Storage} {start : storage.State} {hall hall' : Hall service storage.State}
  {log events : List (Event bookkeeping)} {i : Nat} {m : Metadata}

/-- Each task is served by the rules, on the account that the log gives of it. -/
theorem follows_of_course (course : Hall.Course (books storage) ⟨start, []⟩ log hall) :
    ∀ (i : Nat) (t : service.Task), hall.tasks[i]? = some t →
      t.rest.Follows noting Allowed (Request.Settles t.request) (accountOf log i) := by
  induction course with
  | start => exact fun i t ht => nomatch ht
  | @step log events hall hall' before h ih =>
    refine h.forall_tasks ih (fun request _ => follows_request request _) ?_ ?_
    · intro i t _ hothers ht
      rw [accountOf_append_of_ne hothers]
      exact ht
    · intro i request call next reply ht hanswer hevents
      rw [hevents, accountOf_concat]
      exact ht.2 reply _ ⟨shows_of_books hanswer, rfl⟩

theorem of_event {event : Event bookkeeping} (h : Hall.Step (books storage) hall [event] hall') :
    books storage event.call hall.state event.reply hall'.state := by
  cases h with
  | answer task hanswer => exact hanswer

/-- What any task has loaded may be persisted. -/
theorem accepts_of_mem (course : Hall.Course (books storage) ⟨start, []⟩ log hall)
    (h : loads i m ∈ log) : storage.Accepts (.persist m) := by
  obtain ⟨before, between, rfl⟩ := List.append_of_mem h
  obtain ⟨hall₁, hall₂, -, hload, -⟩ := course.split
  exact Storage.accepts_of_load (of_event hload)

theorem accepts_of_allowed {call : Repository.Call}
    (course : Hall.Course (books storage) ⟨start, []⟩ log hall)
    (h : Allowed (.inr call) (accountOf log i)) : storage.Accepts call := by
  cases call with
  | persist m =>
    obtain ⟨loaded, fresh, now, snapshot, hloaded, hnow, rfl⟩ := h
    exact Storage.accepts_sync (accepts_of_mem course (mem_of_loaded hloaded)) hnow snapshot
  | _ => exact Storage.accepts_of_isTimely h

end Courses

end SchemaCodegen.Bookkeeping
