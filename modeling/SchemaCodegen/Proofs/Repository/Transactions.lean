import Mathlib.Data.String.Basic
import SchemaCodegen.Proofs.Repository.Statements

/-!
# Changes as transactions

What a database is asked and what it answers, is kept in a log of `Exchange`s. Any statement may be
at fault, so the work of a change has many logs, and `Logs` says which ones. For work inside a
transaction they follow from those of the work itself: the transaction is begun, the work is done
up to the first fault, and then it is either committed or undone (`Logs.inTransaction`). In this
sense each of the three changes of a repository is one transaction (`changes_are_transactions`). A
database that does not answer everything has the runs whose logs it answers
(`Logs.runs_iff_answers`).
-/

namespace SchemaCodegen

namespace Database

/-- A statement and what it was answered. -/
structure Exchange where
  statement : Statement
  reply : Except Fault statement.Answer

/-- The database may answer anything; what it answers is kept, the first answer first. -/
def recorded : database.Step (List Exchange) :=
  fun (statement : Statement) log (reply : Except Fault statement.Answer) log' =>
    log' = log ++ [⟨statement, reply⟩]

/-- Which logs there may be, and with which outcomes. -/
abbrev Course (α : Type) := List Exchange → Outcome α → Prop

/-- The work has the logs of a course, and no others. -/
structure Logs {α : Type} (work : Work α) (course : Course α) : Prop where
  runs_iff : ∀ {log : List Exchange} {outcome : Outcome α} {log' : List Exchange},
    work.Runs recorded log outcome log' ↔
      ∃ exchanges, log' = log ++ exchanges ∧ course exchanges outcome

/-- The statement is answered and the course goes on, or it is at fault and nothing follows. -/
inductive After {α : Type} (statement : Statement) (rest : statement.Answer → Course α) :
    Course α where
  | failed (fault : Fault) :
      After statement rest [⟨statement, .error fault⟩] (.error (.database fault))
  | answered (answer : statement.Answer) {exchanges : List Exchange} {outcome : Outcome α}
      (h : rest answer exchanges outcome) :
      After statement rest (⟨statement, .ok answer⟩ :: exchanges) outcome

/-- Nothing more is asked. -/
def Ends {α : Type} (final : Outcome α) : Course α :=
  fun exchanges outcome => exchanges = [] ∧ outcome = final

/-- All statements are answered, or one is at fault and none of those behind it is asked. -/
def Went : List Statement → Course Unit
  | [] => Ends (.ok ())
  | statement :: statements => After statement fun _ => Went statements

/-- A transaction is begun and a course taken. If all goes well the transaction is committed, which
may fail too; otherwise it is undone, and the outcome is what went wrong. -/
inductive Transacted (course : Course Unit) : Course Unit where
  | undone {exchanges : List Exchange} {failure : Failure}
      (h : After .beginTransaction (fun _ => course) exchanges (.error failure))
      (reply : Except Fault Unit) :
      Transacted course (exchanges ++ [⟨.rollback, reply⟩]) (.error failure)
  | ended {exchanges : List Exchange}
      (h : After .beginTransaction (fun _ => course) exchanges (.ok ()))
      (reply : Except Fault Unit) :
      Transacted course (exchanges ++ [⟨.commit, reply⟩]) (reply.mapError .database)

/-! ## The logs of work -/

section Logs

variable {α : Type}

theorem runs_execute_recorded_iff {statement : Statement} {outcome : Outcome statement.Answer}
    {log log' : List Exchange} : (execute statement).Runs recorded log outcome log' ↔
      ∃ reply : Except Fault statement.Answer, log' = log ++ [⟨statement, reply⟩] ∧
        reply.mapError Failure.database = outcome :=
  runs_execute_iff

theorem logs_ofOutcome (final : Outcome α) : Logs (Procedure.ofOutcome final) (Ends final) := by
  refine ⟨fun {log outcome log'} => ?_⟩
  rw [Procedure.runs_ofOutcome]
  constructor
  · rintro ⟨rfl, rfl⟩
    exact ⟨[], (List.append_nil _).symm, rfl, rfl⟩
  · rintro ⟨_, rfl, rfl, rfl⟩
    exact ⟨rfl, (List.append_nil _).symm⟩

theorem Logs.execute_bind {statement : Statement} {rest : statement.Answer → Work α}
    {course : statement.Answer → Course α} (h : ∀ answer, Logs (rest answer) (course answer)) :
    Logs (execute statement >>= rest) (After statement course) := by
  refine ⟨fun {log outcome log'} => ?_⟩
  rw [Procedure.runs_bind]
  constructor
  · rintro (⟨failure, rfl, hfail⟩ | ⟨answer, t, hdone, hrest⟩)
    · obtain ⟨reply, rfl, hreply⟩ := runs_execute_recorded_iff.1 hfail
      cases reply with
      | ok answer => cases hreply
      | error fault =>
        cases hreply
        exact ⟨_, rfl, .failed fault⟩
    · obtain ⟨reply, rfl, hreply⟩ := runs_execute_recorded_iff.1 hdone
      cases reply with
      | error fault => cases hreply
      | ok answer' =>
        cases hreply
        obtain ⟨exchanges, rfl, hcourse⟩ := (h answer).runs_iff.1 hrest
        exact ⟨_, List.append_assoc .., .answered answer hcourse⟩
  · rintro ⟨_, rfl, hcourse⟩
    cases hcourse with
    | failed fault =>
      exact .inl ⟨_, rfl, runs_execute_recorded_iff.2 ⟨.error fault, rfl, rfl⟩⟩
    | @answered answer exchanges outcome hcourse =>
      refine .inr ⟨answer, _, runs_execute_recorded_iff.2 ⟨.ok answer, rfl, rfl⟩, ?_⟩
      exact (h answer).runs_iff.2 ⟨exchanges, List.append_cons .., hcourse⟩

theorem logs_executeAll (statements : List Statement) :
    Logs (executeAll statements) (Went statements) := by
  induction statements with
  | nil => exact logs_ofOutcome (.ok ())
  | cons statement statements ih => exact .execute_bind fun _ => ih

/-- Undoing a transaction is asked once, whatever it is answered. -/
theorem runs_rollback_iff {failure : Failure} {outcome : Outcome Unit} {log log' : List Exchange} :
    (do let _ ← (execute .rollback).run; return .error failure :
      Script database (Outcome Unit)).Runs recorded log outcome log' ↔
        outcome = .error failure ∧ ∃ reply, log' = log ++ [⟨.rollback, reply⟩] := by
  rw [Script.runs_bind]
  constructor
  · rintro ⟨result, t, hundone, rfl, rfl⟩
    obtain ⟨reply, rfl, -⟩ := runs_execute_recorded_iff.1 hundone
    exact ⟨rfl, reply, rfl⟩
  · rintro ⟨rfl, reply, rfl⟩
    exact ⟨_, _, runs_execute_recorded_iff.2 ⟨reply, rfl, rfl⟩, rfl, rfl⟩

theorem runs_commit_iff {outcome : Outcome Unit} {log log' : List Exchange} :
    (do execute .commit; return () : Work Unit).Runs recorded log outcome log' ↔
      ∃ reply : Except Fault Unit, log' = log ++ [⟨.commit, reply⟩] ∧
        reply.mapError Failure.database = outcome := by
  have hcommit : (do execute .commit; return () : Work Unit) = execute .commit := bind_pure_unit
  rw [hcommit]
  exact runs_execute_recorded_iff

/-- The logs of a transaction follow from those of the work in it. -/
theorem Logs.inTransaction {work : Work Unit} {course : Course Unit} (h : Logs work course) :
    Logs (inTransaction work) (Transacted course) := by
  have hbegun : Logs (do execute .beginTransaction; work : Work Unit)
      (After .beginTransaction fun _ => course) := .execute_bind fun _ => h
  refine ⟨fun {log outcome log'} => ?_⟩
  rw [Database.inTransaction, Procedure.runs_mk, Script.runs_bind]
  constructor
  · rintro ⟨result, t, hwork, hend⟩
    obtain ⟨exchanges, rfl, hcourse⟩ := hbegun.runs_iff.1 hwork
    cases result with
    | error failure =>
      obtain ⟨rfl, reply, rfl⟩ := runs_rollback_iff.1 hend
      exact ⟨_, List.append_assoc .., .undone hcourse reply⟩
    | ok _ =>
      obtain ⟨reply, rfl, rfl⟩ := runs_commit_iff.1 hend
      exact ⟨_, List.append_assoc .., .ended hcourse reply⟩
  · rintro ⟨_, rfl, hcourse⟩
    cases hcourse with
    | @undone exchanges failure hcourse reply =>
      exact ⟨_, _, hbegun.runs_iff.2 ⟨_, rfl, hcourse⟩,
        runs_rollback_iff.2 ⟨rfl, reply, (List.append_assoc ..).symm⟩⟩
    | @ended exchanges hcourse reply =>
      exact ⟨_, _, hbegun.runs_iff.2 ⟨_, rfl, hcourse⟩,
        runs_commit_iff.2 ⟨reply, (List.append_assoc ..).symm, rfl⟩⟩

end Logs

/-! ## Databases -/

section Databases

variable {σ α : Type} {step : database.Step σ} {s s' : σ}

/-- A database that is asked these statements may give these answers. -/
def Answers (step : database.Step σ) : List Exchange → σ → σ → Prop
  | [], s, s' => s = s'
  | exchange :: exchanges, s, s' =>
    ∃ t, step exchange.statement s exchange.reply t ∧ Answers step exchanges t s'

theorem answers_append {before after : List Exchange} :
    Answers step (before ++ after) s s' ↔
      ∃ t, Answers step before s t ∧ Answers step after t s' := by
  induction before generalizing s with
  | nil => simp [Answers]
  | cons exchange before ih =>
    simp only [List.cons_append, Answers, ih]
    constructor
    · rintro ⟨t, hstep, u, hbefore, hafter⟩
      exact ⟨u, ⟨t, hstep, hbefore⟩, hafter⟩
    · rintro ⟨u, ⟨t, hstep, hbefore⟩, hafter⟩
      exact ⟨t, hstep, u, hbefore, hafter⟩

theorem prefix_of_runs_recorded {work : Script database α} {a : α} {log log' : List Exchange}
    (h : work.Runs recorded log a log') : log <+: log' := by
  refine h.keeps (fun _ => List.prefix_rfl) List.IsPrefix.trans fun _ log _ log' hlog => ?_
  rw [hlog]
  exact List.prefix_append ..

/-- A script runs on a database along the logs that the database answers. -/
theorem runs_iff_answers {work : Script database α} {a : α} (log : List Exchange) :
    work.Runs step s a s' ↔
      ∃ exchanges, work.Runs recorded log a (log ++ exchanges) ∧ Answers step exchanges s s' := by
  induction work generalizing s log with
  | done b =>
    constructor
    · rintro ⟨rfl, rfl⟩
      exact ⟨[], ⟨rfl, (List.append_nil _).symm⟩, rfl⟩
    · rintro ⟨exchanges, ⟨rfl, hlog⟩, hanswers⟩
      obtain rfl := List.self_eq_append_right.1 hlog
      exact ⟨rfl, hanswers⟩
  | ask statement next ih =>
    constructor
    · rintro ⟨reply, t, hstep, hrest⟩
      obtain ⟨exchanges, hruns, hanswers⟩ := (ih reply (log ++ [⟨statement, reply⟩])).1 hrest
      rw [← List.append_cons] at hruns
      exact ⟨⟨statement, reply⟩ :: exchanges, ⟨reply, _, rfl, hruns⟩, t, hstep, hanswers⟩
    · rintro ⟨exchanges, ⟨reply, _, rfl, hruns⟩, hanswers⟩
      -- what was recorded first is the first exchange
      obtain ⟨rest, hrest⟩ := prefix_of_runs_recorded hruns
      rw [← List.append_cons] at hrest
      obtain rfl := List.append_cancel_left hrest
      obtain ⟨t, hstep, hanswers⟩ := hanswers
      rw [List.append_cons log _ rest] at hruns
      exact ⟨reply, t, hstep, (ih reply _).2 ⟨rest, hruns, hanswers⟩⟩

/-- The logs of work tell how it runs on each database. -/
theorem Logs.runs_iff_answers {work : Work α} {course : Course α} (h : Logs work course)
    {outcome : Outcome α} :
    work.Runs step s outcome s' ↔ ∃ exchanges, course exchanges outcome ∧
      Answers step exchanges s s' := by
  refine (Database.runs_iff_answers []).trans (exists_congr fun exchanges => and_congr_left' ?_)
  refine h.runs_iff.trans ⟨?_, fun hcourse => ⟨exchanges, rfl, hcourse⟩⟩
  rintro ⟨_, hsame, hcourse⟩
  exact List.append_cancel_left hsame ▸ hcourse

end Databases

/-! ## When a transaction is committed -/

/-- A course of these statements: they are asked in this order, and all of them if nothing goes
wrong. How it ends can be told from the log. -/
structure Course.Along {α : Type} (course : Course α) (statements : List Statement) : Prop where
  asked : ∀ {exchanges : List Exchange} {outcome : Outcome α}, course exchanges outcome →
    exchanges.map Exchange.statement <+: statements
  allAsked : ∀ {exchanges : List Exchange} {a : α}, course exchanges (.ok a) →
    exchanges.map Exchange.statement = statements
  unique : ∀ {exchanges : List Exchange} {outcome outcome' : Outcome α},
    course exchanges outcome → course exchanges outcome' → outcome = outcome'

namespace Course.Along

variable {α : Type} {statements : List Statement}

theorem ends (final : Outcome α) : (Ends final).Along [] := by
  refine ⟨?_, ?_, ?_⟩
  · rintro _ _ ⟨rfl, -⟩
    exact List.nil_prefix
  · rintro _ _ ⟨rfl, -⟩
    rfl
  · rintro _ _ _ ⟨-, rfl⟩ ⟨-, rfl⟩
    rfl

theorem after {statement : Statement} {rest : statement.Answer → Course α}
    (h : ∀ answer, (rest answer).Along statements) :
    (After statement rest).Along (statement :: statements) := by
  refine ⟨fun hcourse => ?asked, fun hcourse => ?allAsked, fun hcourse hcourse' => ?unique⟩
  case asked =>
    cases hcourse with
    | failed fault => exact List.cons_prefix_cons.2 ⟨rfl, List.nil_prefix⟩
    | answered answer hrest => exact List.cons_prefix_cons.2 ⟨rfl, (h answer).asked hrest⟩
  case allAsked =>
    cases hcourse with
    | answered answer hrest => exact congrArg (statement :: ·) ((h answer).allAsked hrest)
  case unique =>
    cases hcourse with
    | failed fault =>
      cases hcourse' with
      | failed => rfl
    | answered answer hrest =>
      cases hcourse' with
      | answered _ hrest' => exact (h answer).unique hrest hrest'

theorem went (statements : List Statement) : (Went statements).Along statements := by
  induction statements with
  | nil => exact ends (.ok ())
  | cons statement statements ih => exact after fun _ => ih

end Course.Along

/-- Either the transaction could not be begun, or a course was taken in it. -/
theorem After.begun {course : Course Unit} {exchanges : List Exchange} {outcome : Outcome Unit}
    (h : After .beginTransaction (fun _ => course) exchanges outcome) :
    (∃ fault, exchanges = [⟨.beginTransaction, .error fault⟩] ∧
      outcome = .error (.database fault)) ∨
      ∃ inner, exchanges = ⟨.beginTransaction, .ok ()⟩ :: inner ∧ course inner outcome := by
  cases h with
  | failed fault => exact .inl ⟨fault, rfl, rfl⟩
  | answered _ hcourse => exact .inr ⟨_, rfl, hcourse⟩

namespace Transacted

variable {course : Course Unit} {statements : List Statement} {exchanges : List Exchange}
  {outcome : Outcome Unit}

/-- Where a transaction is undone, not all went well, however far one looks. -/
theorem not_prefix_of_undone (halong : course.Along statements)
    (hinner : ∀ statement ∈ statements, statement.isBoundary = false) {failure : Failure}
    (h : course exchanges (.error failure)) (reply : Except Fault Unit) {done : List Exchange}
    (hdone : course done (.ok ())) : ¬ done <+: exchanges ++ [⟨.rollback, reply⟩] := by
  intro hprefix
  rcases List.prefix_concat_iff.1 hprefix with rfl | hprefix
  · have hrollback : Statement.rollback ∈ statements := by
      rw [← halong.allAsked hdone, List.map_append]
      exact List.mem_append_right _ List.mem_cons_self
    cases hinner _ hrollback
  · -- all statements are among those answered before the failure, so nothing is left to fail
    have hlength := (halong.asked h).length_le
    rw [← halong.allAsked hdone, List.length_map, List.length_map] at hlength
    obtain rfl := hprefix.eq_of_length_le hlength
    cases halong.unique h hdone

theorem commit_not_mem_of_undone (halong : course.Along statements)
    (hinner : ∀ statement ∈ statements, statement.isBoundary = false) {failure : Failure}
    (h : After .beginTransaction (fun _ => course) exchanges (.error failure))
    (reply : Except Fault Unit) :
    Statement.commit ∉ (exchanges ++ [⟨.rollback, reply⟩] : List Exchange).map
      Exchange.statement := by
  rcases h.begun with ⟨fault, rfl, -⟩ | ⟨inner, rfl, hcourse⟩
  · simp
  · have hcommit : Statement.commit ∉ inner.map Exchange.statement := fun hmem =>
      Bool.noConfusion (hinner _ ((halong.asked hcourse).subset hmem))
    simpa using hcommit

/-- The transaction is committed exactly if all went well before. -/
theorem commits_iff (h : Transacted course exchanges outcome) (halong : course.Along statements)
    (hinner : ∀ statement ∈ statements, statement.isBoundary = false) :
    .commit ∈ exchanges.map Exchange.statement ↔
      ∃ done, course done (.ok ()) ∧ ⟨.beginTransaction, .ok ()⟩ :: done <+: exchanges := by
  cases h with
  | @undone exchanges failure hwork reply =>
    refine iff_of_false (commit_not_mem_of_undone halong hinner hwork reply) ?_
    rintro ⟨done, hdone, hprefix⟩
    rcases hwork.begun with ⟨fault, rfl, -⟩ | ⟨inner, rfl, hcourse⟩
    · cases (List.cons_prefix_cons.1 hprefix).1
    · exact not_prefix_of_undone halong hinner hcourse reply hdone
        (List.cons_prefix_cons.1 hprefix).2
  | @ended exchanges hwork reply =>
    refine iff_of_true ?_ ?_
    · rw [List.map_append]
      exact List.mem_append_right _ List.mem_cons_self
    · rcases hwork.begun with ⟨fault, -, houtcome⟩ | ⟨inner, rfl, hcourse⟩
      · cases houtcome
      · exact ⟨inner, hcourse, List.prefix_append ..⟩

end Transacted

end Database

namespace Repository.Database

open SchemaCodegen.Database

/-- The work is one transaction of these statements. -/
structure IsTransaction (work : Work Unit) (statements : List Statement) (course : Course Unit) :
    Prop where
  logs : Logs work (Transacted course)
  along : course.Along statements
  inner : ∀ statement ∈ statements, statement.isBoundary = false
  commits_iff : ∀ {exchanges : List Exchange} {outcome : Outcome Unit},
    work.Runs recorded [] outcome exchanges →
      (.commit ∈ exchanges.map Exchange.statement ↔
        ∃ done, course done (.ok ()) ∧ ⟨.beginTransaction, .ok ()⟩ :: done <+: exchanges)

theorem IsTransaction.of_logs {work : Work Unit} {statements : List Statement}
    {course : Course Unit} (h : Logs work course) (halong : course.Along statements)
    (hinner : ∀ statement ∈ statements, statement.isBoundary = false) :
    IsTransaction (inTransaction work) statements course := by
  have hlogs := h.inTransaction
  refine ⟨hlogs, halong, hinner, fun hruns => ?_⟩
  obtain ⟨_, rfl, hcourse⟩ := hlogs.runs_iff.1 hruns
  exact hcourse.commits_iff halong hinner

/-- The course of stamping tables: it fails if the number of tables stamped is not that of keys. -/
def Counted (time : Instant) (keys : List String) : Course Unit :=
  After (.stampTables time keys) fun updated : UInt64 =>
    Ends (if updated = .ofNat keys.length then .ok ()
      else .error (unknownKeys (.ofNat keys.length) updated))

theorem logs_count (count updated : UInt64) :
    Logs (if updated ≠ count then throw (unknownKeys count updated) else pure () : Work Unit)
      (Ends (if updated = count then .ok () else .error (unknownKeys count updated))) := by
  by_cases hcount : updated = count
  · rw [if_pos hcount, if_neg (fun hne => hne hcount)]
    exact logs_ofOutcome (.ok ())
  · rw [if_neg hcount, if_pos hcount]
    exact logs_ofOutcome (.error _)

theorem logs_markGenerated (keys : List String) (time : Instant) :
    Logs (markGenerated keys time) (Transacted (Counted time.toMicroseconds (distinctKeys keys))) :=
  .inTransaction (.execute_bind fun updated => logs_count _ updated)

theorem mem_distinctKeys {keys : List String} {key : String} :
    key ∈ distinctKeys keys ↔ key ∈ keys := by
  rw [distinctKeys, Std.ExtTreeMap.mem_keys, Std.ExtTreeMap.mem_ofList, List.map_map,
    List.contains_iff_mem]
  simp [Function.comp_def]

theorem nodup_distinctKeys (keys : List String) : (distinctKeys keys).Nodup :=
  Std.ExtTreeMap.nodup_keys

/-- The records of one kind are listed by ascending keys. -/
theorem pairwise_toList {α : Type} (records : Filed α) :
    records.toList.Pairwise fun e e' => e.1 < e'.1 := by
  have hkeys : (records.toList.map Prod.fst).Pairwise (· < ·) := by
    rw [Std.ExtTreeMap.map_fst_toList_eq_keys]
    exact Std.ExtTreeMap.ordered_keys.imp compare_lt_iff_lt.1
  exact List.pairwise_map.1 hkeys

/-- Each change is one transaction, wherever the database fails. Metadata is persisted by one
statement for each table, column and relationship, and for each index by those that write it and
replace its columns, all in the order of their keys. Tables are stamped by one statement on the
keys, each of them once, and history is recorded by one statement for each record. -/
theorem changes_are_transactions :
    (∀ m, IsTransaction (persist m) (writes m) (Went (writes m))) ∧
    (∀ keys time, IsTransaction (markGenerated keys time)
      [.stampTables time.toMicroseconds (distinctKeys keys)]
      (Counted time.toMicroseconds (distinctKeys keys))) ∧
    (∀ records, IsTransaction (recordHistory records)
      (records.map fun r => .insertHistory (.ofRecord r))
      (Went (records.map fun r => .insertHistory (.ofRecord r)))) ∧
    (∀ {α : Type} (records : Filed α), records.toList.Pairwise fun e e' => e.1 < e'.1) ∧
    ∀ keys, (distinctKeys keys).Nodup ∧ ∀ key, key ∈ distinctKeys keys ↔ key ∈ keys := by
  refine ⟨fun m => ?_, fun keys time => ?_, fun records => ?_, pairwise_toList,
    fun keys => ⟨nodup_distinctKeys keys, fun key => mem_distinctKeys⟩⟩
  · rw [persist_eq]
    exact .of_logs (logs_executeAll _) (.went _) fun _ => isBoundary_writes
  · refine .of_logs (.execute_bind fun updated => logs_count _ updated) (.after fun _ => .ends _) ?_
    rintro statement hmem
    rw [List.mem_singleton.1 hmem]
    rfl
  · have hrecords := forM_eq_executeAll_map (fun r => .insertHistory (.ofRecord r))
      (fun r => (bind_pure_unit (x := execute (.insertHistory (.ofRecord r)))).symm) records
    rw [recordHistory, hrecords]
    refine .of_logs (logs_executeAll _) (.went _) fun statement h => ?_
    obtain ⟨r, -, rfl⟩ := List.mem_map.1 h
    rfl

end Repository.Database

end SchemaCodegen
