import SchemaCodegen.Proofs.Metadata.Stamps
import SchemaCodegen.Proofs.Repository.Tasks

/-!
# Stamps that others may undo

A stamp is put in one step, but a sync loads in one step and persists in another, and nobody is kept
out in between. So a sync that loaded before a stamp was put takes it away when it persists, and a
stamp of an earlier time may come later (`stamps_get_lost`). Nothing else undoes a stamp
(`stamp_stays`): what is persisted was loaded and then synced, and a sync takes no stamp away.
-/

namespace SchemaCodegen.Bookkeeping

open Repository (Storage)

/-- What takes a stamp away: a sync that had loaded before the stamp was put and persists without
it, or a stamp of an earlier time. -/
inductive Undone (before between : List (Event bookkeeping)) (key : String) (time : Instant) :
    Prop where
  | sync {i : Nat} {loaded persisted : Metadata} (early : loads i loaded ∈ before)
    (late : persists i persisted ∈ between) (lost : ¬ persisted.IsStampedSince key time)
  | mark {i : Nat} {keys : List String} {now : Instant} (late : marks i keys now ∈ between)
    (key : key ∈ keys) (lost : now.isBefore time = true)

/-- The repository holds a stamp of the time or later. -/
def Kept (storage : Storage) (s : storage.State) (key : String) (time : Instant) : Prop :=
  ∃ document, storage.Holds s document ∧ document.state.IsStampedSince key time

section Stamps

variable {storage : Storage} {s s' : storage.State} {key : String} {time : Instant} {i : Nat}
  {call : Repository.Call} {reply : Repository.Reply call}

theorem Kept.of_load {m : Metadata} (h : Kept storage s key time)
    (hload : storage.step .load s (.ok m : Outcome Metadata) s') : m.IsStampedSince key time := by
  obtain ⟨document, hholds, hstamped⟩ := h
  have haccepts : storage.Accepts .load := Storage.accepts_of_isTimely trivial
  rcases Storage.of_step hholds haccepts hload with ⟨hreply, -⟩ | ⟨hfailure, -⟩
  · cases hreply
    exact hstamped
  · cases hfailure

/-- One call keeps the stamp, unless it persists metadata without it or stamps an earlier time. -/
theorem Kept.of_step (h : Kept storage s key time) (hcall : storage.Accepts call)
    (hstep : storage.step call s reply s')
    (hpersist : ∀ m, ⟨i, .inr call, reply⟩ = persists i m → m.IsStampedSince key time)
    (hmark : ∀ keys now, ⟨i, .inr call, reply⟩ = marks i keys now → key ∈ keys →
      now.isBefore time = false) : Kept storage s' key time := by
  obtain ⟨document, hholds, hstamped⟩ := h
  rcases Storage.of_step hholds hcall hstep with ⟨rfl, hholds⟩ | ⟨-, hholds⟩
  · refine ⟨_, hholds, ?_⟩
    cases call with
    | persist m => exact hpersist m rfl
    | markGenerated keys now =>
      rw [Repository.Memory.answer] at hmark ⊢
      cases hmarks : document.state.markAllGenerated keys now with
      | error failure => exact hstamped
      | ok metadata =>
        rw [hmarks] at hmark
        exact hstamped.markAllGenerated hmarks (hmark keys now rfl)
    | _ => exact hstamped
  · exact ⟨document, hholds, hstamped⟩

theorem Undone.append {before between : List (Event bookkeeping)}
    (h : Undone before between key time) (events : List (Event bookkeeping)) :
    Undone before (between ++ events) key time := by
  cases h with
  | sync early late lost => exact .sync early (List.mem_append_left _ late) lost
  | mark late hkey lost => exact .mark (List.mem_append_left _ late) hkey lost

variable {start : storage.State} {hall hall' : Hall service storage.State}
  {log before between : List (Event bookkeeping)} {keys : List String}

/-- What is persisted has the stamp if it was loaded with it, and else was loaded early. -/
theorem stamped_or_early {j : Nat} {m : Metadata}
    (hloads : ∀ k m, loads k m ∈ between → m.IsStampedSince key time)
    (h : Allowed (.inr (.persist m)) (accountOf (before ++ [marks i keys time] ++ between) j)) :
    m.IsStampedSince key time ∨ ∃ loaded, loads j loaded ∈ before := by
  obtain ⟨loaded, fresh, now, snapshot, hloaded, -, rfl⟩ := h
  rcases List.mem_append.1 (mem_of_loaded hloaded) with hearly | hlate
  · rcases List.mem_append.1 hearly with hearly | hmark
    · exact .inr ⟨loaded, hearly⟩
    · cases List.mem_singleton.1 hmark
  · exact .inl (Metadata.isStampedSince_sync_iff.2 (hloads j loaded hlate))

/-- One answer keeps the stamp, and shows it if it is to a load, unless the stamp is undone. -/
theorem Kept.of_answer {j : Nat} {request : service.Request} {call : bookkeeping.Call}
    {reply : bookkeeping.Reply call}
    {next : bookkeeping.Reply call → Script bookkeeping (service.Reply request)}
    (h : Kept storage hall.state key time)
    (hloads : ∀ k m, loads k m ∈ between → m.IsStampedSince key time)
    (course : Hall.Course (books storage) ⟨start, []⟩ (before ++ [marks i keys time] ++ between)
      hall)
    (task : hall.tasks[j]? = some ⟨request, .ask call next⟩)
    (answer : books storage call hall.state reply s)
    (hundone : ¬ Undone before (between ++ [⟨j, call, reply⟩]) key time) :
    Kept storage s key time ∧
      ∀ k m, ⟨j, call, reply⟩ = loads k m → m.IsStampedSince key time := by
  have hallowed := (follows_of_course course _ _ task).1
  have hlast : ⟨j, call, reply⟩ ∈ between ++ [(⟨j, call, reply⟩ : Event bookkeeping)] :=
    List.mem_append_right _ List.mem_cons_self
  rcases call with call | call
  · rw [answer.2]
    exact ⟨h, fun _ _ hnever => nomatch hnever⟩
  refine ⟨h.of_step (i := j) (accepts_of_allowed course hallowed) answer ?_ ?_, ?_⟩
  · rintro m ⟨⟩
    rcases stamped_or_early hloads hallowed with hstamped | ⟨loaded, hearly⟩
    · exact hstamped
    · exact Classical.byContradiction fun hlost => hundone (.sync hearly hlast hlost)
  · rintro keys now ⟨⟩ hmember
    exact Bool.eq_false_iff.2 fun hlost => hundone (.mark hlast hmember hlost)
  · rintro k m ⟨⟩
    exact h.of_load answer

/-- After a stamp was put the repository keeps it, and who loads finds it, until it is undone. -/
theorem kept_of_course {hall₁ hall₂ : Hall service storage.State}
    (earlier : Hall.Course (books storage) ⟨start, []⟩ before hall₁)
    (marked : Hall.Step (books storage) hall₁ [marks i keys time] hall₂) (hkey : key ∈ keys)
    (later : Hall.Course (books storage) hall₂ between hall) :
    Undone before between key time ∨
      Kept storage hall.state key time ∧
        ∀ j m, loads j m ∈ between → m.IsStampedSince key time := by
  have hsupported : time.IsSupported := by
    cases marked with
    | answer task _ => exact (follows_of_course earlier _ _ task).1
  induction later with
  | start =>
    obtain ⟨old, new, hmarks, hholds⟩ := Storage.holds_of_markGenerated hsupported (of_event marked)
    exact .inr ⟨⟨new, hholds, Metadata.isStampedSince_of_markAllGenerated hmarks hkey⟩,
      fun _ _ hnever => nomatch hnever⟩
  | @step between events hall hall' later step ih =>
    rcases ih with hundone | ⟨hkept, hloads⟩
    · exact .inl (hundone.append events)
    by_cases hundone : Undone before (between ++ events) key time
    · exact .inl hundone
    refine .inr ?_
    cases step with
    | enter request =>
      rw [List.append_nil]
      exact ⟨hkept, hloads⟩
    | answer task answer =>
      have course := (earlier.step marked).trans later
      obtain ⟨hnext, hlast⟩ := hkept.of_answer hloads course task answer hundone
      refine ⟨hnext, fun k m hmem => ?_⟩
      rcases List.mem_append.1 hmem with hmem | hmem
      · exact hloads k m hmem
      · exact hlast k m (List.mem_singleton.1 hmem).symm

/-- Once stamps are reported as put, every load shows them or later ones, unless a sync that had
loaded before has persisted without them or an earlier time has been stamped since. -/
theorem stamp_stays {j : Nat} {m : Metadata}
    (course : Hall.Course (books storage) ⟨start, []⟩ log hall)
    (reported : hall.tasks[i]? =
      some ⟨Request.markAllGenerated keys, .done (Except.ok () : Outcome Unit)⟩)
    (load : Hall.Step (books storage) hall [loads j m] hall') :
    ∀ key ∈ keys, ∃ before time between, log = before ++ marks i keys time :: between ∧
      (m.IsStampedSince key time ∨ Undone before between key time) := by
  intro key hkey
  have hsettles := follows_of_course course _ _ reported
  obtain ⟨time, hmarked⟩ := hsettles rfl (List.ne_nil_of_mem hkey)
  obtain ⟨before, between, rfl⟩ := List.append_of_mem (mem_of_marked hmarked)
  refine ⟨before, time, between, rfl, ?_⟩
  obtain ⟨hall₁, hall₂, earlier, marked, later⟩ := course.split
  rcases kept_of_course earlier marked hkey later with hundone | ⟨hkept, -⟩
  · exact .inr hundone
  · exact .inl (hkept.of_load (of_event load))

end Stamps

/-! ## The books of one table -/

section OneTable

/-- A table that was never generated. -/
def oneTable : Metadata :=
  { Metadata.empty with
    tables := (∅ : Filed TableRecord).insert "dbo.T"
      { id := Uuid.ofNumber 1
        naturalKey := "dbo.T"
        tableName := "T"
        schemaName := "dbo"
        hash := ⟨"h", none⟩
        isActive := true
        lastGenerated := none
        lastSynced := ⟨0, 0⟩
        flags := .standard } }

theorem contains_oneTable : oneTable.tables.contains "dbo.T" = true := by
  decide

def oneTableStamped : Metadata :=
  oneTable.stamp "dbo.T" ⟨1, 0⟩

def oneSnapshot : Snapshot :=
  ⟨"d", "s", "1", ⟨0, 0⟩, [⟨"T", "dbo", [], [], []⟩], []⟩

def oneFresh : RecordKey → Uuid :=
  fun _ => Uuid.ofNumber 2

def oneTableSynced : Metadata :=
  (oneTable.sync oneFresh ⟨0, 0⟩ oneSnapshot).1

/-- Nobody keeps the books yet, which are in memory. -/
def opening : Hall service Storage.memory.State :=
  ⟨(⟨oneTable, []⟩ : MetadataDocument), []⟩

theorem course_entered (request : service.Request) :
    Hall.Course (books .memory) opening [] ⟨opening.state, [service.task request]⟩ :=
  Hall.Course.start.step (.enter request)

/-- The task `i` has read the clock. -/
def clocks (i : Nat) (time : Instant) : Event bookkeeping :=
  ⟨i, .inl .clock, time⟩

theorem books_clock (time : Instant) (h : time.IsSupported) (s : Storage.memory.State) :
    books .memory (.inl .clock) s time s :=
  ⟨h, rfl⟩

theorem books_freshIds (keys : List RecordKey) (fresh : RecordKey → Uuid)
    (s : Storage.memory.State) : books .memory (.inl (.freshIds keys)) s fresh s :=
  ⟨trivial, rfl⟩

theorem books_markGenerated {m : Metadata} (h : m.tables.contains "dbo.T" = true)
    (time : Instant) :
    books .memory (.inr (.markGenerated ["dbo.T"] time)) (⟨m, []⟩ : MetadataDocument)
      (Except.ok () : Outcome Unit) (⟨m.stamp "dbo.T" time, []⟩ : MetadataDocument) := by
  have hmarks : m.markAllGenerated ["dbo.T"] time = .ok (m.stamp "dbo.T" time) := by
    rw [Metadata.markAllGenerated, List.find?_cons, h]
    rfl
  refine (Repository.Memory.answer_markGenerated ["dbo.T"] time ⟨m, []⟩).trans ?_
  dsimp only
  rw [hmarks]
  rfl

theorem books_persist (m m' : Metadata) :
    books .memory (.inr (.persist m')) (⟨m, []⟩ : MetadataDocument)
      (Except.ok () : Outcome Unit) (⟨m', []⟩ : MetadataDocument) := rfl

theorem books_load (m : Metadata) :
    books .memory (.inr .load) (⟨m, []⟩ : MetadataDocument) (Except.ok m : Outcome Metadata)
      (⟨m, []⟩ : MetadataDocument) := rfl

/-- The table has been stamped, and someone is about to load. -/
def stampedHall : Hall service Storage.memory.State where
  state := (⟨oneTableStamped, []⟩ : MetadataDocument)
  tasks := [⟨Request.markAllGenerated ["dbo.T"], .done (Except.ok () : Outcome Unit)⟩,
    service.task Request.load]

theorem course_stampedHall : Hall.Course (books .memory) opening
    [clocks 0 ⟨1, 0⟩, marks 0 ["dbo.T"] ⟨1, 0⟩] stampedHall := by
  have entered := course_entered (Request.markAllGenerated ["dbo.T"])
  have clocked := entered.step (.answer (i := 0) rfl (books_clock ⟨1, 0⟩ (by decide) _))
  have marked := clocked.step (.answer (i := 0) rfl (books_markGenerated contains_oneTable ⟨1, 0⟩))
  have loading := marked.step (Hall.Step.enter (Request.load : service.Request))
  exact loading

/-- Who stamps a table shows it to all that load afterwards. -/
theorem stamp_stays_stampedHall :
    ∃ hall', Hall.Course (books .memory) opening
        [clocks 0 ⟨1, 0⟩, marks 0 ["dbo.T"] ⟨1, 0⟩] stampedHall ∧
      stampedHall.tasks[0]? = some ⟨Request.markAllGenerated ["dbo.T"],
        .done (Except.ok () : Outcome Unit)⟩ ∧
      Hall.Step (books .memory) stampedHall [loads 1 oneTableStamped] hall' ∧
      ∃ before time between, [clocks 0 ⟨1, 0⟩, marks 0 ["dbo.T"] ⟨1, 0⟩] =
          before ++ marks 0 ["dbo.T"] time :: between ∧
        (oneTableStamped.IsStampedSince "dbo.T" time ∨ Undone before between "dbo.T" time) := by
  have load : Hall.Step (books .memory) stampedHall [loads 1 oneTableStamped] _ :=
    .answer rfl (books_load oneTableStamped)
  exact ⟨_, course_stampedHall, rfl, load,
    stamp_stays course_stampedHall rfl load "dbo.T" List.mem_cons_self⟩

/-! ### Stamps that get lost -/

/-- At the end of the log a stamp of the time is reported as put, and who loads then does not find
it. -/
def Forgets (log : List (Event bookkeeping)) (time : Instant) (m : Metadata) : Prop :=
  ∃ i hall hall', Hall.Course (books .memory) opening log hall ∧ marks i ["dbo.T"] time ∈ log ∧
    hall.tasks[i]? = some ⟨Request.markAllGenerated ["dbo.T"],
      .done (Except.ok () : Outcome Unit)⟩ ∧
    Hall.Step (books .memory) hall [loads 2 m] hall' ∧ ¬ m.IsStampedSince "dbo.T" time

/-- A sync has loaded before the table is stamped, and persists afterwards. -/
def undoingBySync : List (Event bookkeeping) :=
  [loads 0 oneTable, clocks 0 ⟨0, 0⟩, ⟨0, .inl (.freshIds oneSnapshot.recordKeys), oneFresh⟩,
    clocks 1 ⟨1, 0⟩, marks 1 ["dbo.T"] ⟨1, 0⟩, persists 0 oneTableSynced]

theorem forgets_undoingBySync : Forgets undoingBySync ⟨1, 0⟩ oneTableSynced := by
  have hlost : ¬ oneTableSynced.IsStampedSince "dbo.T" ⟨1, 0⟩ := by
    rintro ⟨stamp, hstamp, -⟩
    have hnone : oneTable.stampOf "dbo.T" = none := by decide
    rw [oneTableSynced, Metadata.stampOf_sync, hnone] at hstamp
    cases hstamp
  have h₁ := course_entered (Request.sync oneSnapshot)
  have h₂ := h₁.step (.answer (i := 0) rfl (books_load oneTable))
  have h₃ := h₂.step (.answer (i := 0) rfl (books_clock ⟨0, 0⟩ (by decide) _))
  have h₄ := h₃.step (.answer (i := 0) rfl (books_freshIds oneSnapshot.recordKeys oneFresh _))
  have h₅ := h₄.step (.enter (Request.markAllGenerated ["dbo.T"] : service.Request))
  have h₆ := h₅.step (.answer (i := 1) rfl (books_clock ⟨1, 0⟩ (by decide) _))
  have h₇ := h₆.step (.answer (i := 1) rfl (books_markGenerated contains_oneTable ⟨1, 0⟩))
  have h₈ := h₇.step (.answer (i := 0) rfl (books_persist oneTableStamped oneTableSynced))
  have h₉ := h₈.step (.enter (Request.load : service.Request))
  exact ⟨1, _, _, h₉, by simp [undoingBySync], rfl,
    .answer (i := 2) rfl (books_load oneTableSynced), hlost⟩

/-- Who had the clock first stamps the table last. -/
def undoingByMark : List (Event bookkeeping) :=
  [clocks 0 ⟨0, 0⟩, clocks 1 ⟨1, 0⟩, marks 1 ["dbo.T"] ⟨1, 0⟩, marks 0 ["dbo.T"] ⟨0, 0⟩]

theorem forgets_undoingByMark :
    Forgets undoingByMark ⟨1, 0⟩ (oneTableStamped.stamp "dbo.T" ⟨0, 0⟩) := by
  have hlost : ¬ (oneTableStamped.stamp "dbo.T" ⟨0, 0⟩).IsStampedSince "dbo.T" ⟨1, 0⟩ := by
    rintro ⟨stamp, hstamp, hlater⟩
    have hfirst : (oneTableStamped.stamp "dbo.T" ⟨0, 0⟩).stampOf "dbo.T" = some ⟨0, 0⟩ := by
      decide
    rw [hfirst] at hstamp
    cases hstamp
    cases hlater
  have hcontains : oneTableStamped.tables.contains "dbo.T" = true := by decide
  have h₁ := course_entered (Request.markAllGenerated ["dbo.T"])
  have h₂ := h₁.step (.answer (i := 0) rfl (books_clock ⟨0, 0⟩ (by decide) _))
  have h₃ := h₂.step (.enter (Request.markAllGenerated ["dbo.T"] : service.Request))
  have h₄ := h₃.step (.answer (i := 1) rfl (books_clock ⟨1, 0⟩ (by decide) _))
  have h₅ := h₄.step (.answer (i := 1) rfl (books_markGenerated contains_oneTable ⟨1, 0⟩))
  have h₆ := h₅.step (.answer (i := 0) rfl (books_markGenerated hcontains ⟨0, 0⟩))
  have h₇ := h₆.step (.enter (Request.load : service.Request))
  exact ⟨1, _, _, h₇, by simp [undoingByMark], rfl, .answer (i := 2) rfl (books_load _), hlost⟩

/-- A stamp that is reported as put may be lost to a sync that runs at the same time, and to a stamp
of an earlier time. -/
theorem stamps_get_lost : Forgets undoingBySync ⟨1, 0⟩ oneTableSynced ∧
    Forgets undoingByMark ⟨1, 0⟩ (oneTableStamped.stamp "dbo.T" ⟨0, 0⟩) :=
  ⟨forgets_undoingBySync, forgets_undoingByMark⟩

end OneTable

end SchemaCodegen.Bookkeeping
