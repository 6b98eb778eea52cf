import SchemaCodegen.Proofs.Metadata.Identity
import SchemaCodegen.Proofs.Metadata.Mirror
import SchemaCodegen.Proofs.Repository.Statements

/-!
# References between rows

The rows of columns and indexes refer to rows of tables, and those of index columns to rows of
indexes. A database that watches over these references accepts a statement only if the row that it
refers to is there (`Refers`). Sound metadata is persisted in an order that never breaks them
(`follows_persist`), and reachable metadata is sound.
-/

namespace SchemaCodegen.Repository.Database

open SchemaCodegen.Database

/-- In the transaction that is open, a statement was done that `P` holds of. -/
def DoneBefore (P : Statement → Prop) (log : List Statement) : Prop :=
  ∃ before done, log = before ++ .beginTransaction :: done ∧
    (∀ statement ∈ done, statement.isBoundary = false) ∧ ∃ statement ∈ done, P statement

namespace DoneBefore

variable {P Q : Statement → Prop} {log : List Statement}

theorem append {more : List Statement} (h : DoneBefore P log)
    (hmore : ∀ statement ∈ more, statement.isBoundary = false) : DoneBefore P (log ++ more) := by
  obtain ⟨before, done, rfl, hdone, statement, hmem, hstatement⟩ := h
  refine ⟨before, done ++ more, by simp, fun other hother => ?_, statement,
    List.mem_append_left _ hmem, hstatement⟩
  exact (List.mem_append.1 hother).elim (hdone other) (hmore other)

/-- A statement that follows in the same transaction is done as well. -/
theorem concat {statement : Statement} (h : DoneBefore P log)
    (hinner : statement.isBoundary = false) (hstatement : Q statement) :
    DoneBefore Q (log ++ [statement]) := by
  obtain ⟨before, done, rfl, hdone, -⟩ := h
  refine ⟨before, done ++ [statement], by simp, fun other hother => ?_, statement,
    List.mem_append_right _ List.mem_cons_self, hstatement⟩
  rcases List.mem_append.1 hother with hother | hother
  · exact hdone other hother
  · exact List.mem_singleton.1 hother ▸ hinner

theorem of_begin {statements : List Statement} {statement : Statement}
    (hinner : ∀ statement ∈ statements, statement.isBoundary = false)
    (hmem : statement ∈ statements) (hstatement : P statement) :
    DoneBefore P (log ++ [.beginTransaction] ++ statements) :=
  ⟨log, statements, by simp, hinner, statement, hmem, hstatement⟩

end DoneBefore

def InsertsTable (id : Uuid) (statement : Statement) : Prop :=
  ∃ row, statement = .upsertTable row ∧ row.id = id

def InsertsIndex (id : Uuid) (statement : Statement) : Prop :=
  ∃ row, statement = .upsertIndex row ∧ row.id = id

/-- What a statement refers to was inserted before it, in the same transaction. -/
def Refers : Statement → List Statement → Prop
  | .upsertColumn row => DoneBefore (InsertsTable row.tableId)
  | .upsertIndex row => DoneBefore (InsertsTable row.tableId)
  | .deleteIndexColumns indexId => DoneBefore (InsertsIndex indexId)
  | .insertIndexColumn row => DoneBefore (InsertsIndex row.indexId)
  | _ => fun _ => True

section Persist

variable {m : Metadata} {log : List Statement}

/-- All tables were inserted. -/
def TablesDone (m : Metadata) (log : List Statement) : Prop :=
  ∀ (k : String) (t : TableRecord), m.tables[k]? = some t → DoneBefore (InsertsTable t.id) log

theorem TablesDone.append {more : List Statement} (h : TablesDone m log)
    (hmore : ∀ statement ∈ more, statement.isBoundary = false) : TablesDone m (log ++ more) :=
  fun k t ht => (h k t ht).append hmore

theorem TablesDone.of_hasOwner {id : Uuid} {isActive : Bool} (h : TablesDone m log)
    (howner : Metadata.HasOwner m.tables id isActive) : DoneBefore (InsertsTable id) log := by
  obtain ⟨k, t, ht, rfl, -⟩ := howner
  exact h k t ht

theorem tablesDone (m : Metadata) (log : List Statement) :
    TablesDone m (log ++ [.beginTransaction] ++
      m.tables.toList.map fun e => .upsertTable (.ofRecord e.2)) := by
  intro k t ht
  refine DoneBefore.of_begin (fun statement hmem => ?_)
    (List.mem_map_of_mem (Std.ExtTreeMap.mem_toList_iff_getElem?_eq_some.2 ht)) ⟨_, rfl, rfl⟩
  obtain ⟨e, -, rfl⟩ := List.mem_map.1 hmem
  rfl

/-- An index is inserted before its columns are replaced. -/
theorem allAllowed_indexWrites {r : IndexRecord}
    (htable : DoneBefore (InsertsTable r.tableId) log) :
    AllAllowed Refers (indexWrites r) log := by
  have hindex : DoneBefore (InsertsIndex r.id) (log ++ [.upsertIndex (.ofRecord r)]) :=
    htable.concat rfl ⟨_, rfl, rfl⟩
  have hcolumns : AllAllowed Refers
      (r.columns.map fun c => .insertIndexColumn (.ofRecord r.id c))
        (log ++ [.upsertIndex (.ofRecord r)] ++ [.deleteIndexColumns r.id]) ∧
      DoneBefore (InsertsIndex r.id) _ :=
    allAllowed_map (fun c _ log hlog => ⟨hlog, hlog.append (by simp [Statement.isBoundary])⟩)
      (hindex.append (by simp [Statement.isBoundary]))
  exact ⟨htable, hindex, hcolumns.1⟩

theorem allAllowed_columns (h : Metadata.Sound m) (hlog : TablesDone m log) :
    AllAllowed Refers (m.columns.toList.map fun e => .upsertColumn (.ofRecord e.2)) log ∧
      TablesDone m (log ++ m.columns.toList.map fun e => .upsertColumn (.ofRecord e.2)) := by
  refine allAllowed_map (fun e he log hlog => ⟨?_, ?_⟩) hlog
  · have hr := Std.ExtTreeMap.mem_toList_iff_getElem?_eq_some.1 he
    exact hlog.of_hasOwner (h.columnOwner hr)
  · exact hlog.append (by simp [Statement.isBoundary])

theorem allAllowed_indexes (h : Metadata.Sound m) (hlog : TablesDone m log) :
    AllAllowed Refers (m.indexes.toList.flatMap fun e => indexWrites e.2) log ∧
      TablesDone m (log ++ m.indexes.toList.flatMap fun e => indexWrites e.2) := by
  refine allAllowed_flatMap (fun e he log hlog => ⟨?_, ?_⟩) hlog
  · have hr := Std.ExtTreeMap.mem_toList_iff_getElem?_eq_some.1 he
    exact allAllowed_indexWrites (hlog.of_hasOwner (h.indexOwner hr))
  · exact hlog.append fun _ => isBoundary_indexWrites

theorem allAllowed_writes (h : Metadata.Sound m) :
    AllAllowed Refers (transaction (writes m)) log := by
  refine ⟨trivial, allAllowed_append.2 ⟨?_, trivial, trivial⟩⟩
  rw [writes, allAllowed_append, allAllowed_append, allAllowed_append]
  obtain ⟨hcolumns, hlog⟩ := allAllowed_columns h (tablesDone m log)
  refine ⟨allAllowed_of_forall fun statement hmem log => ?_, hcolumns,
    (allAllowed_indexes h hlog).1, allAllowed_of_forall fun statement hmem log => ?_⟩
  · obtain ⟨e, -, rfl⟩ := List.mem_map.1 hmem
    trivial
  · obtain ⟨e, -, rfl⟩ := List.mem_map.1 hmem
    trivial

/-- Wherever the database fails, nothing is asked of it that refers to what is not there. -/
theorem follows_persist (h : Metadata.Sound m) (log : List Statement) :
    (persist m).run.Follows logged Refers
      (fun outcome log' => outcome = .ok () → log' = log ++ transaction (writes m)) log := by
  rw [persist_eq]
  exact follows_inTransaction (allAllowed_writes h) fun _ => trivial

end Persist

/-- Reachable metadata is sound, and persisting it refers to nothing that was not inserted in the
same transaction. -/
theorem references_of_reachable {past : List Snapshot} {m : Metadata}
    (h : Metadata.Reachable past m) (log : List Statement) :
    m.Sound ∧
      (persist m).run.Follows logged Refers
        (fun outcome log' => outcome = .ok () → log' = log ++ transaction (writes m)) log ∧
      (persist m).Runs accepted log (.ok ()) (log ++ transaction (writes m)) :=
  ⟨h.sound, follows_persist h.sound log, runs_persist_iff.2 ⟨rfl, rfl⟩⟩

end SchemaCodegen.Repository.Database

namespace SchemaCodegen.Metadata.Moved

open Database Repository.Database

/-- A column that moved between tables refers to the table that it is in now. -/
theorem references_second : Reachable [before, after] second ∧ second.Sound ∧
    (persist second).run.Follows logged Refers
      (fun outcome log => outcome = .ok () → log = [] ++ transaction (writes second)) [] ∧
    (persist second).Runs accepted [] (.ok ()) ([] ++ transaction (writes second)) :=
  have h : Reachable [before, after] second :=
    .sync reachable_first (idsFrom 100) default after fresh_second
  ⟨h, references_of_reachable h []⟩

end SchemaCodegen.Metadata.Moved
