import SchemaCodegen.Proofs.Script.Interleaving
import SchemaCodegen.Repository.Database

/-!
# The statements of a change

Persisting metadata is one transaction of statements that follow one another as a list (`writes`,
`persist_eq`). What such a transaction asks can be told from the list alone: if every statement is
allowed after those before it, then all that is asked is allowed, wherever the database fails
(`follows_inTransaction`), and if it never fails, the whole list is done (`runs_persist_iff`).
-/

namespace SchemaCodegen

namespace Database

/-- The statements that begin and end transactions. -/
def Statement.isBoundary : Statement → Bool
  | .beginTransaction | .commit | .rollback => true
  | _ => false

/-- The statements that were done are kept in a log, the first ones first. -/
def logged : database.Step (List Statement) :=
  fun (statement : Statement) log (reply : Except Fault statement.Answer) log' =>
    log' = if reply.isOk then log ++ [statement] else log

/-- The database does all that it is asked. -/
def accepted : database.Step (List Statement) :=
  fun (statement : Statement) log (reply : Except Fault statement.Answer) log' =>
    reply.isOk ∧ log' = log ++ [statement]

/-- Statements one after the other, as long as none of them fails. -/
def executeAll : List Statement → Work Unit
  | [] => pure ()
  | statement :: statements => do
    let _ ← execute statement
    executeAll statements

theorem executeAll_append (before after : List Statement) :
    executeAll (before ++ after) = (do executeAll before; executeAll after) := by
  induction before with
  | nil => exact (pure_bind _ _).symm
  | cons statement before ih =>
    simp only [List.cons_append, executeAll, ih, bind_assoc]

/-- What is done for each of many, is done as one list. -/
theorem forM_eq_executeAll {α : Type} {work : α → Work Unit} (statements : α → List Statement)
    (h : ∀ a, work a = executeAll (statements a)) (as : List α) :
    as.forM work = executeAll (as.flatMap statements) := by
  induction as with
  | nil => rfl
  | cons a as ih => rw [List.forM, h, List.flatMap_cons, executeAll_append, ih]

theorem forM_eq_executeAll_map {α : Type} {work : α → Work Unit} (statement : α → Statement)
    (h : ∀ a, work a = executeAll [statement a]) (as : List α) :
    as.forM work = executeAll (as.map statement) := by
  rw [List.map_eq_flatMap]
  exact forM_eq_executeAll _ h as

/-! ## What is allowed after what -/

section Follows

variable {allowed : Statement → List Statement → Prop} {log : List Statement}

/-- Each of the statements is allowed once those before it are done. -/
def AllAllowed (allowed : Statement → List Statement → Prop) :
    List Statement → List Statement → Prop
  | [], _ => True
  | statement :: statements, log =>
    allowed statement log ∧ AllAllowed allowed statements (log ++ [statement])

theorem allAllowed_append {before after : List Statement} :
    AllAllowed allowed (before ++ after) log ↔
      AllAllowed allowed before log ∧ AllAllowed allowed after (log ++ before) := by
  induction before generalizing log with
  | nil => simp [AllAllowed]
  | cons statement before ih =>
    simp only [List.cons_append, AllAllowed, ih, List.append_assoc, List.nil_append, and_assoc]

theorem allAllowed_of_forall {statements : List Statement}
    (h : ∀ statement ∈ statements, ∀ log, allowed statement log) :
    AllAllowed allowed statements log := by
  induction statements generalizing log with
  | nil => trivial
  | cons statement statements ih =>
    exact ⟨h statement List.mem_cons_self log,
      ih fun other hother => h other (List.mem_cons_of_mem statement hother)⟩

/-- What makes the statements for each of many allowed and is kept by them, makes all of them
allowed. -/
theorem allAllowed_flatMap {α : Type} {statements : α → List Statement}
    {P : List Statement → Prop} {as : List α}
    (h : ∀ a ∈ as, ∀ log, P log →
      AllAllowed allowed (statements a) log ∧ P (log ++ statements a)) (hlog : P log) :
    AllAllowed allowed (as.flatMap statements) log ∧ P (log ++ as.flatMap statements) := by
  induction as generalizing log with
  | nil => exact ⟨trivial, (List.append_nil log).symm ▸ hlog⟩
  | cons a as ih =>
    obtain ⟨hfirst, hkept⟩ := h a List.mem_cons_self log hlog
    obtain ⟨hrest, hend⟩ := ih (fun b hb => h b (List.mem_cons_of_mem a hb)) hkept
    rw [List.flatMap_cons, ← List.append_assoc]
    exact ⟨allAllowed_append.2 ⟨hfirst, hrest⟩, hend⟩

theorem allAllowed_map {α : Type} {statement : α → Statement} {P : List Statement → Prop}
    {as : List α}
    (h : ∀ a ∈ as, ∀ log, P log → allowed (statement a) log ∧ P (log ++ [statement a]))
    (hlog : P log) :
    AllAllowed allowed (as.map statement) log ∧ P (log ++ as.map statement) := by
  rw [List.map_eq_flatMap]
  refine allAllowed_flatMap (fun a ha log hlog => ?_) hlog
  exact ⟨⟨(h a ha log hlog).1, trivial⟩, (h a ha log hlog).2⟩

theorem follows_execute {statement : Statement}
    {final : Outcome statement.Answer → List Statement → Prop} (h : allowed statement log)
    (hdone : ∀ answer, final (.ok answer) (log ++ [statement]))
    (hfault : ∀ failure, final (.error failure) log) :
    (execute statement).run.Follows logged allowed final log := by
  refine ⟨h, fun (reply : Except Fault statement.Answer) log' hlog => ?_⟩
  cases reply with
  | ok answer =>
    obtain rfl : log' = log ++ [statement] := hlog
    exact hdone answer
  | error fault =>
    obtain rfl : log' = log := hlog
    exact hfault _

theorem follows_executeAll {statements : List Statement}
    (h : AllAllowed allowed statements log) :
    (executeAll statements).run.Follows logged allowed
      (fun outcome log' => outcome = .ok () → log' = log ++ statements) log := by
  induction statements generalizing log with
  | nil => exact fun _ => (List.append_nil log).symm
  | cons statement statements ih =>
    refine Procedure.follows_bind (follows_execute h.1 (fun _ => ?_) fun _ => nofun)
    refine (ih h.2).mono fun outcome log' hlog houtcome => ?_
    rw [hlog houtcome, List.append_assoc, List.singleton_append]

/-- The statements of a transaction that is committed. -/
def transaction (statements : List Statement) : List Statement :=
  .beginTransaction :: statements ++ [.commit]

/-- A transaction may be undone anywhere, and if it is not, all of it was done. -/
theorem follows_inTransaction {statements : List Statement}
    (h : AllAllowed allowed (transaction statements) log)
    (hrollback : ∀ log, allowed .rollback log) :
    (inTransaction (executeAll statements)).run.Follows logged allowed
      (fun outcome log' => outcome = .ok () → log' = log ++ transaction statements) log := by
  obtain ⟨hbegin, hrest⟩ := h
  obtain ⟨hstatements, hcommit, -⟩ := allAllowed_append.1 hrest
  have hwork : (do execute .beginTransaction; executeAll statements : Work Unit).run.Follows logged
      allowed (fun outcome log' => outcome = .ok () →
        log' = log ++ [.beginTransaction] ++ statements) log :=
    Procedure.follows_bind (follows_execute hbegin (fun _ => follows_executeAll hstatements)
      fun _ => nofun)
  refine hwork.bind fun outcome log' hlog => ?_
  cases outcome with
  | error failure =>
    have hundone : (execute .rollback).run.Follows logged allowed (fun _ _ => True) log' :=
      follows_execute (hrollback log') (fun _ => trivial) fun _ => trivial
    exact hundone.bind fun _ _ _ => nofun
  | ok _ =>
    obtain rfl := hlog rfl
    refine Procedure.follows_bind (follows_execute hcommit (fun _ _ => ?_) fun _ => nofun)
    rw [transaction, List.append_assoc, List.append_assoc]
    rfl

end Follows

/-! ## Runs -/

section Runs

variable {σ : Type} {log log' : List Statement}

/-- A statement ends as it is answered. -/
theorem runs_execute_iff {step : database.Step σ} {s s' : σ} {statement : Statement}
    {outcome : Outcome statement.Answer} : (execute statement).Runs step s outcome s' ↔
      ∃ reply : Except Fault statement.Answer, step statement s reply s' ∧
        reply.mapError Failure.database = outcome := by
  constructor
  · rintro ⟨reply, t, hstep, rfl, rfl⟩
    exact ⟨reply, hstep, rfl⟩
  · rintro ⟨reply, hstep, rfl⟩
    exact ⟨reply, s', hstep, rfl, rfl⟩

/-- A statement that has one answer hands it on. -/
theorem runs_execute_bind_of {α : Type} {step : database.Step σ} (statement : Statement)
    (answer : statement.Answer) {s s' t : σ}
    (h : ∀ (reply : Except Fault statement.Answer) (u : σ),
      step statement s reply u ↔ reply = .ok answer ∧ u = t)
    {rest : statement.Answer → Work α} {outcome : Outcome α} :
    (execute statement >>= rest).Runs step s outcome s' ↔ (rest answer).Runs step t outcome s' := by
  rw [Procedure.runs_bind]
  constructor
  · rintro (⟨failure, -, hfail⟩ | ⟨answered, u, hdone, hrest⟩)
    · obtain ⟨reply, hreply, hfailed⟩ := runs_execute_iff.1 hfail
      obtain ⟨rfl, -⟩ := (h reply s').1 hreply
      cases hfailed
    · obtain ⟨reply, hreply, hok⟩ := runs_execute_iff.1 hdone
      obtain ⟨rfl, rfl⟩ := (h reply u).1 hreply
      cases hok
      exact hrest
  · intro hrest
    exact .inr ⟨answer, t, runs_execute_iff.2 ⟨.ok answer, (h _ _).2 ⟨rfl, rfl⟩, rfl⟩, hrest⟩

theorem Statement.nonempty_answer (statement : Statement) : Nonempty statement.Answer := by
  cases statement with
  | selectTables | selectColumns | selectIndexColumns | selectIndexes | selectRelationships
  | selectHistory => exact ⟨[]⟩
  | stampTables => exact ⟨(0 : UInt64)⟩
  | _ => exact ⟨()⟩

theorem runs_execute_accepted_iff {statement : Statement} {outcome : Outcome statement.Answer} :
    (execute statement).Runs accepted log outcome log' ↔
      (∃ answer, outcome = .ok answer) ∧ log' = log ++ [statement] := by
  rw [runs_execute_iff]
  constructor
  · rintro ⟨reply, ⟨hok, rfl⟩, rfl⟩
    cases reply with
    | ok answer => exact ⟨⟨answer, rfl⟩, rfl⟩
    | error fault => cases hok
  · rintro ⟨⟨answer, rfl⟩, rfl⟩
    exact ⟨.ok answer, ⟨rfl, rfl⟩, rfl⟩

/-- After a statement that cannot fail, the rest runs. -/
theorem runs_execute_bind_iff {α : Type} {statement : Statement} {rest : Work α}
    {outcome : Outcome α} :
    (do let _ ← execute statement; rest : Work α).Runs accepted log outcome log' ↔
      rest.Runs accepted (log ++ [statement]) outcome log' := by
  rw [Procedure.runs_bind]
  constructor
  · rintro (⟨failure, rfl, hfail⟩ | ⟨answer, t, hdone, hrest⟩)
    · obtain ⟨⟨answer, hok⟩, -⟩ := runs_execute_accepted_iff.1 hfail
      cases hok
    · obtain ⟨-, rfl⟩ := runs_execute_accepted_iff.1 hdone
      exact hrest
  · intro hrest
    obtain ⟨answer⟩ := statement.nonempty_answer
    exact .inr ⟨answer, _, runs_execute_accepted_iff.2 ⟨⟨answer, rfl⟩, rfl⟩, hrest⟩

/-- Where nothing fails, all statements are done. -/
theorem runs_executeAll_accepted_iff {statements : List Statement} {outcome : Outcome Unit} :
    (executeAll statements).Runs accepted log outcome log' ↔
      outcome = .ok () ∧ log' = log ++ statements := by
  induction statements generalizing log with
  | nil =>
    rw [executeAll, Procedure.runs_pure, List.append_nil]
    exact and_congr eq_comm eq_comm
  | cons statement statements ih =>
    rw [executeAll, runs_execute_bind_iff, ih, List.append_cons log statement statements]

theorem runs_inTransaction_accepted_iff {statements : List Statement} {outcome : Outcome Unit} :
    (inTransaction (executeAll statements)).Runs accepted log outcome log' ↔
      outcome = .ok () ∧ log' = log ++ transaction statements := by
  have hwork : ∀ {outcome : Outcome Unit} {log'},
      (do execute .beginTransaction; executeAll statements : Work Unit).Runs accepted log outcome
        log' ↔ outcome = .ok () ∧ log' = log ++ [.beginTransaction] ++ statements :=
    runs_execute_bind_iff.trans runs_executeAll_accepted_iff
  have hcommit : ∀ {log}, (do execute .commit; return () : Work Unit).Runs accepted log outcome
      log' ↔ outcome = .ok () ∧ log' = log ++ [.commit] := by
    refine runs_execute_bind_iff.trans ?_
    rw [Procedure.runs_pure]
    exact and_congr eq_comm eq_comm
  have hlog : log ++ transaction statements =
      log ++ [.beginTransaction] ++ statements ++ [.commit] := by
    rw [transaction, List.append_assoc, List.append_assoc]
    rfl
  rw [inTransaction, Procedure.runs_mk, Script.runs_bind, hlog]
  constructor
  · rintro ⟨_, _, hdone, hrest⟩
    obtain ⟨rfl, rfl⟩ := hwork.1 hdone
    exact hcommit.1 hrest
  · intro hend
    exact ⟨.ok (), _, hwork.2 ⟨rfl, rfl⟩, hcommit.2 hend⟩

end Runs

end Database

namespace Repository.Database

open SchemaCodegen.Database

/-- The statements for an index: its own, and those that replace its columns. -/
def indexWrites (r : IndexRecord) : List Statement :=
  .upsertIndex (.ofRecord r) :: .deleteIndexColumns r.id ::
    r.columns.map fun c => .insertIndexColumn (.ofRecord r.id c)

/-- The statements for all records, in the order of their keys. -/
def writes (m : Metadata) : List Statement :=
  (m.tables.toList.map fun e => .upsertTable (.ofRecord e.2)) ++
    ((m.columns.toList.map fun e => .upsertColumn (.ofRecord e.2)) ++
      ((m.indexes.toList.flatMap fun e => indexWrites e.2) ++
        m.relationships.toList.map fun e => .upsertRelationship (.ofRecord e.2)))

theorem isBoundary_indexWrites {r : IndexRecord} {statement : Statement}
    (h : statement ∈ indexWrites r) : statement.isBoundary = false := by
  rw [indexWrites, List.mem_cons, List.mem_cons, List.mem_map] at h
  rcases h with rfl | rfl | ⟨c, -, rfl⟩ <;> rfl

theorem isBoundary_writes {m : Metadata} {statement : Statement} (h : statement ∈ writes m) :
    statement.isBoundary = false := by
  simp only [writes, List.mem_append, List.mem_map, List.mem_flatMap] at h
  rcases h with ⟨e, -, rfl⟩ | ⟨e, -, rfl⟩ | ⟨e, -, h⟩ | ⟨e, -, rfl⟩
  · rfl
  · rfl
  · exact isBoundary_indexWrites h
  · rfl

theorem persistIndex_eq (r : IndexRecord) : persistIndex r = executeAll (indexWrites r) := by
  have hcolumns := forM_eq_executeAll_map (fun c => .insertIndexColumn (.ofRecord r.id c))
    (fun c => (bind_pure_unit (x := execute (.insertIndexColumn (.ofRecord r.id c)))).symm)
    r.columns
  rw [indexWrites, executeAll, executeAll, ← hcolumns]
  rfl

theorem persist_eq (m : Metadata) : persist m = inTransaction (executeAll (writes m)) := by
  have htables := forM_eq_executeAll_map (fun e => .upsertTable (.ofRecord e.2))
    (fun e => (bind_pure_unit (x := execute (.upsertTable (.ofRecord e.2)))).symm)
    m.tables.toList
  have hcolumns := forM_eq_executeAll_map (fun e => .upsertColumn (.ofRecord e.2))
    (fun e => (bind_pure_unit (x := execute (.upsertColumn (.ofRecord e.2)))).symm)
    m.columns.toList
  have hindexes := forM_eq_executeAll (fun e => indexWrites e.2) (fun e => persistIndex_eq e.2)
    m.indexes.toList
  have hrelationships := forM_eq_executeAll_map (fun e => .upsertRelationship (.ofRecord e.2))
    (fun e => (bind_pure_unit (x := execute (.upsertRelationship (.ofRecord e.2)))).symm)
    m.relationships.toList
  rw [writes, executeAll_append, executeAll_append, executeAll_append, ← htables, ← hcolumns,
    ← hindexes, ← hrelationships]
  rfl

/-- Where nothing fails, the statements for all records are done. -/
theorem runs_persist_iff {m : Metadata} {log log' : List Statement} {outcome : Outcome Unit} :
    (persist m).Runs accepted log outcome log' ↔
      outcome = .ok () ∧ log' = log ++ transaction (writes m) := by
  rw [persist_eq, runs_inTransaction_accepted_iff]

end Repository.Database

end SchemaCodegen
