import Mathlib.Data.List.Perm.Subperm
import SchemaCodegen.Proofs.Repository.Loading
import SchemaCodegen.Proofs.Repository.Transactions

/-!
# Stamping rows

A database that keeps rows stamps those with the keys that it is given and says how many they are
(`Store.answer`). A transaction works on rows of its own, which replace the others when it is
committed. Where no two rows of tables have one key, as many rows are stamped as there are keys
exactly if every key has its row, so the transaction is committed in this case only
(`runs_markGenerated_iff`).
-/

namespace SchemaCodegen.Repository.Database

open SchemaCodegen.Database

namespace Rows

/-- The rows with a time put on those of tables with these keys. -/
def stamp (time : Instant) (keys : List String) (rows : Rows) : Rows :=
  { rows with
    tables := rows.tables.map fun row =>
      if row.naturalKey ∈ keys then { row with lastGenerated := some time } else row }

/-- How many rows of tables have one of these keys. -/
def countMatching (keys : List String) (rows : Rows) : Nat :=
  rows.tables.countP (·.naturalKey ∈ keys)

/-- The keys of the rows of tables. -/
def tableKeys (rows : Rows) : List String :=
  rows.tables.map TableRow.naturalKey

/-- The failure that says how many of these keys have no row. -/
def missing (keys : List String) (rows : Rows) : Failure :=
  .notFound ("Table metadata for " ++ toString (keys.countP (· ∉ rows.tableKeys)) ++ " of " ++
    toString keys.length ++ " keys")

end Rows

/-- A database that one client uses. -/
structure Store where
  /-- The rows as everyone sees them. -/
  rows : Rows
  /-- The rows as the transaction sees them that is open. -/
  own : Option Rows
  /-- What was asked, the first statement first. -/
  asked : List Statement

namespace Store

/-- No transaction is open, and nothing was asked yet. -/
def idle (rows : Rows) : Store :=
  ⟨rows, none, []⟩

/-- How the database answers what stamping asks. -/
def answer : database.Step Store
  | .beginTransaction, store, reply, store' => reply = Except.ok () ∧
    store' = ⟨store.rows, some store.rows, store.asked ++ [.beginTransaction]⟩
  | .stampTables time keys, store, reply, store' => ∃ rows, store.own = some rows ∧
    reply = Except.ok (UInt64.ofNat (rows.countMatching keys)) ∧
      store' = ⟨store.rows, some (rows.stamp time keys), store.asked ++ [.stampTables time keys]⟩
  | .commit, store, reply, store' => ∃ rows, store.own = some rows ∧
    reply = Except.ok () ∧ store' = ⟨rows, none, store.asked ++ [.commit]⟩
  | .rollback, store, reply, store' =>
    reply = Except.ok () ∧ store' = ⟨store.rows, none, store.asked ++ [.rollback]⟩
  | _, _, _, _ => False

/-- What a transaction leaves: its own rows if all went well, and those from before if not. -/
def ended (rows own : Rows) (asked : List Statement) : Outcome Unit → Store
  | .ok _ => ⟨own, none, asked ++ [.commit]⟩
  | .error _ => ⟨rows, none, asked ++ [.rollback]⟩

end Store

/-! ## Counting -/

section Counting

variable {keys : List String} {rows : Rows}

theorem countMatching_eq (hrows : rows.tableKeys.Nodup) (hkeys : keys.Nodup) :
    rows.countMatching keys = keys.countP (· ∈ rows.tableKeys) := by
  have hperm : (rows.tableKeys.filter (· ∈ keys)).Perm (keys.filter (· ∈ rows.tableKeys)) := by
    refine (List.perm_ext_iff_of_nodup (hrows.filter _) (hkeys.filter _)).2 fun key => ?_
    simp [and_comm]
  rw [Rows.countMatching, List.countP_eq_length_filter, List.countP_eq_length_filter,
    ← hperm.length_eq, Rows.tableKeys, List.filter_map, List.length_map]
  rfl

theorem length_distinctKeys_le (keys : List String) :
    (distinctKeys keys).length ≤ keys.length :=
  ((nodup_distinctKeys keys).subperm fun _ => mem_distinctKeys.1).length_le

theorem countMatching_le (hrows : rows.tableKeys.Nodup) (hkeys : keys.Nodup) :
    rows.countMatching keys ≤ keys.length := by
  rw [countMatching_eq hrows hkeys]
  exact List.countP_le_length

theorem countMatching_eq_length_iff (hrows : rows.tableKeys.Nodup) (hkeys : keys.Nodup) :
    rows.countMatching keys = keys.length ↔ ∀ key ∈ keys, key ∈ rows.tableKeys := by
  rw [countMatching_eq hrows hkeys, List.countP_eq_length]
  simp only [decide_eq_true_eq]

/-- What is missing to the number of keys, is the number of keys without a row. -/
theorem length_sub_countMatching (hrows : rows.tableKeys.Nodup) (hkeys : keys.Nodup) :
    keys.length - rows.countMatching keys = keys.countP (· ∉ rows.tableKeys) := by
  have hlength := List.length_eq_countP_add_countP (· ∈ rows.tableKeys) (l := keys)
  rw [countMatching_eq hrows hkeys, hlength]
  simp

theorem ofNat_eq_ofNat_iff {n k : Nat} (hn : n < 2 ^ 64) (hk : k < 2 ^ 64) :
    UInt64.ofNat n = .ofNat k ↔ n = k := by
  rw [← UInt64.toNat_inj, UInt64.toNat_ofNat_of_lt' hn, UInt64.toNat_ofNat_of_lt' hk]

/-- As many rows match as there are keys, if every key that was given has its row. -/
theorem ofNat_countMatching_eq_iff (hrows : rows.tableKeys.Nodup) (hlength : keys.length < 2 ^ 64) :
    UInt64.ofNat (rows.countMatching (distinctKeys keys)) = .ofNat (distinctKeys keys).length ↔
      ∀ key ∈ keys, key ∈ rows.tableKeys := by
  have hdistinct := nodup_distinctKeys keys
  have hcount := (length_distinctKeys_le keys).trans_lt hlength
  rw [ofNat_eq_ofNat_iff ((countMatching_le hrows hdistinct).trans_lt hcount) hcount,
    countMatching_eq_length_iff hrows hdistinct]
  simp only [mem_distinctKeys]

/-- The message counts the keys without a row: the number of rows is never above that of keys. -/
theorem unknownKeys_countMatching (hrows : rows.tableKeys.Nodup) (hkeys : keys.Nodup)
    (hcount : keys.length < 2 ^ 64) :
    unknownKeys (.ofNat keys.length) (.ofNat (rows.countMatching keys)) = rows.missing keys := by
  have hdifference : toString (UInt64.ofNat keys.length - .ofNat (rows.countMatching keys)) =
      toString (keys.countP (· ∉ rows.tableKeys)) := by
    rw [← UInt64.ofNat_sub (countMatching_le hrows hkeys), length_sub_countMatching hrows hkeys]
    exact congrArg toString
      (UInt64.toNat_ofNat_of_lt' (List.countP_le_length.trans_lt hcount))
  have htotal : toString (UInt64.ofNat keys.length) = toString keys.length :=
    congrArg toString (UInt64.toNat_ofNat_of_lt' hcount)
  rw [unknownKeys, hdifference, htotal, Rows.missing]

end Counting

/-! ## The transaction -/

section Transaction

variable {rows own : Rows} {keys : List String} {time : Instant} {outcome result : Outcome Unit}
  {asked : List Statement} {store' : Store}

theorem answers_counted_iff :
    (∃ exchanges, Counted time keys exchanges outcome ∧
        Answers Store.answer exchanges ⟨rows, some own, asked⟩ store') ↔
      outcome = (if UInt64.ofNat (own.countMatching keys) = .ofNat keys.length then .ok ()
        else .error (unknownKeys (.ofNat keys.length) (.ofNat (own.countMatching keys)))) ∧
      store' = ⟨rows, some (own.stamp time keys), asked ++ [.stampTables time keys]⟩ := by
  constructor
  · rintro ⟨_, hcourse, hanswers⟩
    cases hcourse with
    | failed fault =>
      obtain ⟨_, ⟨_, -, hreply, -⟩, -⟩ := hanswers
      cases hreply
    | answered updated hends =>
      obtain ⟨rfl, rfl⟩ := hends
      obtain ⟨_, ⟨_, ⟨⟩, ⟨⟩, rfl⟩, rfl⟩ := hanswers
      exact ⟨rfl, rfl⟩
  · rintro ⟨rfl, rfl⟩
    have hcourse : Counted time keys
        [⟨.stampTables time keys, .ok (UInt64.ofNat (own.countMatching keys))⟩] _ :=
      .answered _ ⟨rfl, rfl⟩
    exact ⟨_, hcourse, _, ⟨own, rfl, rfl, rfl⟩, rfl⟩

/-- The transaction is committed if the course that is taken in it goes well, and undone if not. -/
theorem answers_transacted_iff {course : Course Unit}
    (h : ∀ {outcome store'}, (∃ exchanges, course exchanges outcome ∧
        Answers Store.answer exchanges ⟨rows, some rows, [.beginTransaction]⟩ store') ↔
      outcome = result ∧ store' = ⟨rows, some own, asked⟩) :
    (∃ exchanges, Transacted course exchanges outcome ∧
        Answers Store.answer exchanges (.idle rows) store') ↔
      outcome = result ∧ store' = .ended rows own asked result := by
  have hbegin : ∀ {exchanges : List Exchange} {outcome : Outcome Unit} {store' : Store},
      After .beginTransaction (fun _ => course) exchanges outcome →
        Answers Store.answer exchanges (.idle rows) store' →
          outcome = result ∧ store' = ⟨rows, some own, asked⟩ := by
    intro exchanges outcome store' hwork hanswers
    rcases hwork.begun with ⟨fault, rfl, -⟩ | ⟨inner, rfl, hcourse⟩
    · obtain ⟨_, ⟨hreply, -⟩, -⟩ := hanswers
      cases hreply
    · obtain ⟨_, ⟨-, rfl⟩, hinner⟩ := hanswers
      exact h.1 ⟨inner, hcourse, hinner⟩
  constructor
  · rintro ⟨_, hcourse, hanswers⟩
    cases hcourse with
    | undone hwork reply =>
      obtain ⟨_, hbegun, _, ⟨-, rfl⟩, rfl⟩ := answers_append.1 hanswers
      obtain ⟨rfl, rfl⟩ := hbegin hwork hbegun
      exact ⟨rfl, rfl⟩
    | ended hwork reply =>
      obtain ⟨_, hbegun, _, ⟨_, hown, hreply, rfl⟩, rfl⟩ := answers_append.1 hanswers
      obtain ⟨rfl, rfl⟩ := hbegin hwork hbegun
      cases hown
      obtain rfl : reply = .ok () := hreply
      exact ⟨rfl, rfl⟩
  · rintro ⟨rfl, rfl⟩
    obtain ⟨inner, hcourse, hinner⟩ := h.2 ⟨rfl, rfl⟩
    have hwork : After .beginTransaction (fun _ => course) (⟨.beginTransaction, .ok ()⟩ :: inner)
        outcome := .answered _ hcourse
    have hbegun : Answers Store.answer (⟨.beginTransaction, .ok ()⟩ :: inner) (.idle rows)
        ⟨rows, some own, asked⟩ := ⟨_, ⟨rfl, rfl⟩, hinner⟩
    cases outcome with
    | ok _ =>
      exact ⟨_, .ended hwork (.ok ()),
        answers_append.2 ⟨_, hbegun, _, ⟨own, rfl, rfl, rfl⟩, rfl⟩⟩
    | error failure =>
      exact ⟨_, .undone hwork (.ok ()),
        answers_append.2 ⟨_, hbegun, _, ⟨rfl, rfl⟩, rfl⟩⟩

/-- What is asked of the database when tables are stamped. -/
def stampingAsks (time : Instant) (keys : List String) (ending : Statement) : List Statement :=
  [.beginTransaction, .stampTables time.toMicroseconds (distinctKeys keys), ending]

/-- Stamping has one run. If every key has its row, the stamped rows are committed; if not, the
failure says how many keys have none, and the rows are as before. -/
theorem runs_markGenerated_iff (hrows : rows.tableKeys.Nodup) (hlength : keys.length < 2 ^ 64) :
    (markGenerated keys time).Runs Store.answer (.idle rows) outcome store' ↔
      if ∀ key ∈ keys, key ∈ rows.tableKeys then
        outcome = .ok () ∧ store' = ⟨rows.stamp time.toMicroseconds (distinctKeys keys), none,
          stampingAsks time keys .commit⟩
      else
        outcome = .error (rows.missing (distinctKeys keys)) ∧
          store' = ⟨rows, none, stampingAsks time keys .rollback⟩ := by
  have hdistinct := nodup_distinctKeys keys
  have hcount := (length_distinctKeys_le keys).trans_lt hlength
  have hsame := ofNat_countMatching_eq_iff hrows hlength
  rw [(logs_markGenerated keys time).runs_iff_answers, answers_transacted_iff answers_counted_iff]
  by_cases hknown : ∀ key ∈ keys, key ∈ rows.tableKeys
  · rw [if_pos (hsame.2 hknown), if_pos hknown]
    rfl
  · rw [if_neg (mt hsame.1 hknown), if_neg hknown,
      unknownKeys_countMatching hrows hdistinct hcount]
    rfl

end Transaction

end SchemaCodegen.Repository.Database
