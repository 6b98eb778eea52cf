import SchemaCodegen.Proofs.Template.Preloading
import SchemaCodegen.Proofs.Template.Stages

/-!
# Slots are filled once

What tasks ask tells at what stage each of them is, and for which slots it read files
(`Engine.Account`). Every move keeps the cache in order with that (`Engine.Orderly`): a cell is that
of one name and is filled by one task, and a slot without a template is the business of some task,
so none is left when all tasks are done. The file of a cell that is not given up is read once
(`Engine.ReadOnce`), and all who ask for a name between two clearings are told one cell
(`Engine.slots_settle`). A task that was told a cell before the first of them still reads the file
for that cell, and so does a rendering whose template names the file
(`Crossing.file_is_read_twice`).
-/

namespace SchemaCodegen.Template

namespace Cache

variable {cache : Cache} {name asked : String} {n m : Nat}

theorem main?_eq_some_iff {c : Cell} {main : Template} :
    c.main? = some main ↔ ∃ named, c = .ready main named := by
  cases c <;> simp [Cell.main?]

theorem getElem?_slot : (cache.slot name).2.slots[asked]? =
    if name = asked then some (cache.slot name).1 else cache.slots[asked]? := by
  cases hslot : cache.slots[name]? with
  | some k =>
    rw [slot_of_some hslot]
    split
    · next heq => rw [← heq, hslot]
    · rfl
  | none =>
    rw [slot_of_none hslot]
    change (cache.slots.insert name _)[asked]? = _
    rw [Std.ExtTreeMap.getElem?_insert]
    simp only [Std.compare_eq_iff_eq]

/-- Only the slot of the name is new, and its cell behind all others. -/
theorem slot_cases (cache : Cache) (name : String) :
    (cache.slots[name]? = some (cache.slot name).1 ∧ (cache.slot name).2 = cache) ∨
      cache.slots[name]? = none ∧ (cache.slot name).1 = cache.cells.length := by
  cases hslot : cache.slots[name]? with
  | some k =>
    rw [slot_of_some hslot]
    exact .inl ⟨rfl, rfl⟩
  | none =>
    rw [slot_of_none hslot]
    exact .inr ⟨rfl, rfl⟩

/-- A new cell is empty, as cells are that were not opened yet. -/
theorem cell_slot_eq : (cache.slot name).2.cell m = cache.cell m := by
  cases hslot : cache.slots[name]? with
  | some k => rw [slot_of_some hslot]
  | none =>
    rw [slot_of_none hslot]
    simp only [cell, opened]
    rcases Nat.lt_trichotomy m cache.cells.length with hm | rfl | hm
    · rw [List.getElem?_append_left hm]
    · simp
    · rw [List.getElem?_eq_none (by simp; omega), List.getElem?_eq_none (Nat.le_of_lt hm)]

theorem cell_discard : (cache.discard name n).cell m = cache.cell m := by
  rw [cell, cells_discard, ← cell]

theorem getElem?_discard (h : (cache.discard name n).slots[asked]? = some m) :
    cache.slots[asked]? = some m ∧ (name = asked → n = m → (cache.cell m).isReady = true) := by
  rw [discard] at h
  split at h
  · change (cache.slots.erase name)[asked]? = some m at h
    rw [Std.ExtTreeMap.getElem?_erase] at h
    split at h
    · cases h
    · next hne => exact ⟨h, fun heq _ => absurd (Std.compare_eq_iff_eq.2 heq) hne⟩
  · next hkept =>
    refine ⟨h, ?_⟩
    rintro rfl rfl
    by_contra hready
    exact hkept ⟨h, Bool.eq_false_iff.2 hready⟩

end Cache

namespace Engine

/-! ## What a log tells -/

/-- The cells that tasks were told for a name. -/
def lookUps (name : String) (log : List (Event engine)) : List Nat :=
  log.filterMap (lookUp? name)

/-- What the task reads for the slot that it is at. -/
def Stage.reads : Stage → engine.Call → List (String × Nat)
  | .reading name n, .inl (.read _) => [(name, n)]
  | _, _ => []

/-- At what stage each task is, and for which slots the files of templates were read. -/
structure Account where
  stage : Nat → Stage
  readings : List (String × Nat)

namespace Account

def note (a : Account) (event : Event engine) : Account where
  stage := Function.update a.stage event.task ((a.stage event.task).after event.call event.reply)
  readings := a.readings ++ (a.stage event.task).reads event.call

/-- What a log tells of tasks that came in at its start or later. -/
def ofLog (log : List (Event engine)) : Account :=
  log.foldl note ⟨fun _ => .idle, []⟩

theorem ofLog_concat (log : List (Event engine)) (event : Event engine) :
    ofLog (log ++ [event]) = (ofLog log).note event := by
  rw [ofLog, List.foldl_append]
  rfl

theorem stage_concat_self (log : List (Event engine)) (event : Event engine) :
    (ofLog (log ++ [event])).stage event.task =
      ((ofLog log).stage event.task).after event.call event.reply := by
  rw [ofLog_concat]
  exact Function.update_self ..

theorem stage_concat_of_ne (log : List (Event engine)) {event : Event engine} {i : Nat}
    (h : i ≠ event.task) : (ofLog (log ++ [event])).stage i = (ofLog log).stage i := by
  rw [ofLog_concat]
  exact Function.update_of_ne h ..

end Account

theorem mem_lookUps_concat {name : String} {n : Nat} {log : List (Event engine)}
    {event : Event engine} : n ∈ lookUps name (log ++ [event]) ↔
      n ∈ lookUps name log ∨ lookUp? name event = some n := by
  simp [lookUps]

/-! ## Moves -/

section Moves

variable {cache cache' : Cache} {s s' : Stage} {event : Event engine} {name : String} {n m : Nat}

theorem Move.length_le (h : Move cache s event s' cache') :
    cache.cells.length ≤ cache'.cells.length := by
  cases h with
  | lookedUp => exact Cache.length_le_slot
  | discarded => exact Nat.le_of_eq (congrArg List.length Cache.cells_discard.symm)
  | started => exact Nat.le_of_eq Cache.length_setCell.symm
  | filled => exact Nat.le_of_eq Cache.length_setCell.symm
  | gaveUp => exact Nat.le_of_eq Cache.length_setCell.symm
  | added => exact Nat.le_of_eq Cache.length_setCell.symm
  | _ => exact Nat.le_refl _

/-- Who is told a cell holds it then, and has the slot of the name for it. -/
theorem Move.of_lookUp? (h : Move cache s event s' cache') (hn : lookUp? name event = some n) :
    s' = .holding name n ∧ n = (cache.slot name).1 ∧ cache' = (cache.slot name).2 := by
  cases h with
  | lookedUp i asked =>
    change (if asked = name then some (cache.slot asked).1 else none) = some n at hn
    split at hn
    · next heq =>
      subst heq
      cases hn
      exact ⟨rfl, rfl, rfl⟩
    · cases hn
  | quiet _ hquiet =>
    rw [hquiet name] at hn
    cases hn
  | _ => cases hn

/-- A task is at a slot that it was at before or that it was told. -/
theorem Move.of_slot? (h : Move cache s event s' cache') (hs' : s'.slot? = some (name, n)) :
    s.slot? = some (name, n) ∨ lookUp? name event = some n := by
  cases h with
  | lookedUp i asked =>
    cases hs'
    exact .inr (if_pos rfl)
  | found => cases hs'
  | filled => cases hs'
  | discarded => cases hs'
  | _ => exact .inl hs'

/-- A slot was there before, or the task was told its cell. -/
theorem Move.of_slots (h : Move cache s event s' cache') (hn : cache'.slots[name]? = some n) :
    cache.slots[name]? = some n ∨ lookUp? name event = some n := by
  cases h with
  | lookedUp i asked =>
    rw [Cache.getElem?_slot] at hn
    split at hn
    · next heq =>
      cases hn
      exact .inr (if_pos heq)
    · exact .inl hn
  | discarded => exact .inl (Cache.getElem?_discard hn).1
  | cleared => simp at hn
  | _ => exact .inl hn

/-- A slot stays, unless the cache is cleared or the task drops it because its cell is not
filled. -/
theorem Move.slots_kept (h : Move cache s event s' cache') (hclear : event.call ≠ .inr .clear)
    (hfailed : s ≠ .failed name n) (hn : cache.slots[name]? = some n) :
    cache'.slots[name]? = some n := by
  cases h with
  | lookedUp i asked =>
    rw [Cache.getElem?_slot]
    split
    · next heq =>
      subst heq
      rw [Cache.slot_of_some hn]
    · exact hn
  | @discarded asked m =>
    rw [Cache.discard]
    split
    · next hdropped =>
      change (cache.slots.erase asked)[name]? = some n
      rw [Std.ExtTreeMap.getElem?_erase]
      split
      · next heq =>
        have hname := Std.compare_eq_iff_eq.1 heq
        subst hname
        rw [hdropped.1] at hn
        cases hn
        exact absurd rfl hfailed
      · exact hn
    · exact hn
  | cleared => exact absurd rfl hclear
  | _ => exact hn

/-- Others wait for the task as before, or from now on for the cell that it starts to fill. -/
theorem Move.of_filling? (h : Move cache s event s' cache') (hs' : s'.filling? = some n) :
    s.filling? = some n ∧ cache' = cache ∨
      (∃ name, s = .holding name n) ∧ cache.cell n = .empty ∧ cache' = cache.setCell n .busy := by
  cases h with
  | started i h =>
    cases hs'
    exact .inr ⟨⟨_, rfl⟩, h, rfl⟩
  | read => exact .inl ⟨hs', rfl⟩
  | _ => cases hs'

/-- What becomes of a cell when a task makes a move at a stage. -/
inductive CellMove (s : Stage) (event : Event engine) (n : Nat) : Cell → Cell → Prop where
  | same (c : Cell) : CellMove s event n c c
  | started : CellMove s event n .empty .busy
  | filled {c : Cell} {name : String} {content : Except Disk.Fault ByteArray} {template : Template}
      (hs : s = .compiling name n content) (hcall : event.call = .inr (.fill n template))
      (h : Yields content name template) : CellMove s event n c (.ready template [])
  | gaveUp {c : Cell} (hs : s.filling? = some n) (hcall : event.call = .inr (.abandon n)) :
      CellMove s event n c .empty
  | added (main : Template) (named : List Template) (template : Template) :
      CellMove s event n (.ready main named) (.ready main (named ++ [template]))

theorem cellMove_setCell {c : Cell} (h : CellMove s event n (cache.cell n) c) (m : Nat) :
    CellMove s event m (cache.cell m) ((cache.setCell n c).cell m) := by
  rw [Cache.cell_setCell]
  split
  · next hm => exact hm.1 ▸ h
  · exact .same _

theorem Move.cell (h : Move cache s event s' cache') (m : Nat) :
    CellMove s event m (cache.cell m) (cache'.cell m) := by
  cases h with
  | lookedUp => exact Cache.cell_slot_eq ▸ .same _
  | discarded => exact Cache.cell_discard ▸ .same _
  | started i h => exact cellMove_setCell (h ▸ .started) m
  | filled i h => exact cellMove_setCell (.filled rfl rfl h) m
  | gaveUp i => exact cellMove_setCell (.gaveUp rfl rfl) m
  | added i n template =>
    refine cellMove_setCell ?_ m
    cases cache.cell n with
    | ready main named => exact .added main named template
    | _ => exact .same _
  | _ => exact .same _

/-- A task is done with a slot when its cell is filled, or the slot is dropped. -/
theorem Move.slot?_kept (h : Move cache s event s' cache') (hs : s.slot? = some (name, n))
    (hlt : n < cache.cells.length) (hslot : cache'.slots[name]? = some n)
    (hready : (cache'.cell n).isReady = false) : s'.slot? = some (name, n) := by
  cases h with
  | @found asked m template i hmain =>
    cases hs
    obtain ⟨named, hcell⟩ := Cache.main?_eq_some_iff.1 hmain
    rw [hcell] at hready
    cases hready
  | @filled asked m content template i hyields =>
    cases hs
    rw [Cache.cell_setCell, if_pos ⟨rfl, hlt⟩] at hready
    cases hready
  | @discarded asked m i =>
    cases hs
    rw [Cache.cell_discard, (Cache.getElem?_discard hslot).2 rfl rfl] at hready
    cases hready
  | lookedUp => cases hs
  | added => cases hs
  | cleared => cases hs
  | quiet => cases hs
  | _ => exact hs

end Moves

/-! ## What every move keeps -/

/-- After a move a stage is the new one of the task that moved, or an old one. -/
theorem of_update {P : Stage → Prop} {stage : Nat → Stage} {s : Stage} {i j : Nat}
    (h : P (Function.update stage j s i)) : i = j ∧ P s ∨ i ≠ j ∧ P (stage i) := by
  by_cases hself : i = j
  · subst hself
    rw [Function.update_self] at h
    exact .inl ⟨rfl, h⟩
  · rw [Function.update_of_ne hself] at h
    exact .inr ⟨hself, h⟩

/-- The cells that tasks were told are told apart by their names; a cell that is being filled is so
by one task; a slot whose cell has no template is the business of some task; and templates are what
they were compiled from. -/
structure Orderly (log : List (Event engine)) (stage : Nat → Stage) (cache : Cache) : Prop where
  bound : ∀ {name n}, n ∈ lookUps name log → n < cache.cells.length
  name_eq : ∀ {name name' n}, n ∈ lookUps name log → n ∈ lookUps name' log → name = name'
  slots : ∀ {name : String} {n}, cache.slots[name]? = some n → n ∈ lookUps name log
  stages : ∀ {i name n}, (stage i).slot? = some (name, n) → n ∈ lookUps name log
  busy : ∀ {i n}, (stage i).filling? = some n → cache.cell n = .busy
  one : ∀ {i j n}, (stage i).filling? = some n → (stage j).filling? = some n → i = j
  owed : ∀ {name : String} {n}, cache.slots[name]? = some n → (cache.cell n).isReady = false →
    ∃ i, (stage i).slot? = some (name, n)
  made : ∀ {n main named}, cache.cell n = .ready main named →
    ∃ name source, n ∈ lookUps name log ∧ compile name source = .ok main ∧
      ∃ event ∈ log, event.call = .inr (.fill n main)
  failed : ∀ {i name n}, stage i = .failed name n → ∃ event ∈ log, event.call = .inr (.abandon n)

section

variable {log : List (Event engine)} {stage : Nat → Stage} {cache cache' : Cache} {s : Stage}
  {event : Event engine} {name : String} {n : Nat}

theorem call_of_lookUp? (h : lookUp? name event = some n) :
    event.call = .inr (.slot name) := by
  unfold lookUp? at h
  split at h
  · split at h
    · next heq => exact congrArg (fun asked => Sum.inr (Cache.Call.slot asked)) heq
    · cases h
  · cases h

theorem lookUp?_name_eq {name' : String} (h : lookUp? name event = some n)
    (h' : lookUp? name' event = some n) : name = name' := by
  have hcall := (call_of_lookUp? h).symm.trans (call_of_lookUp? h')
  cases hcall
  rfl

theorem Orderly.empty : Orderly [] (fun _ => .idle) default := by
  have hslot : ∀ (name : String) n, (default : Cache).slots[name]? ≠ some n := by
    intro name n hn
    change (∅ : Std.ExtTreeMap String Nat)[name]? = some n at hn
    simp at hn
  have hcell : ∀ n, (default : Cache).cell n = .empty := fun _ => rfl
  exact {
    bound := fun h => nomatch h
    name_eq := fun h => nomatch h
    slots := fun h => absurd h (hslot _ _)
    stages := fun h => nomatch h
    busy := fun h => nomatch h
    one := fun h => nomatch h
    owed := fun h => absurd h (hslot _ _)
    made := fun h => nomatch (hcell _).symm.trans h
    failed := fun h => nomatch h }

namespace Orderly

variable (h : Orderly log stage cache)

include h in
theorem linked : cache.Linked :=
  fun _ _ hn => h.bound (h.slots hn)

include h in
theorem lt_of_slot? {i : Nat} (hs : (stage i).slot? = some (name, n)) : n < cache.cells.length :=
  h.bound (h.stages hs)

include h in
/-- A cell that a task is told is a new one, or one that is known by this name. -/
theorem told (hmove : Move cache (stage event.task) event s cache')
    (hn : lookUp? name event = some n) :
    n < cache'.cells.length ∧ (n ∈ lookUps name log ∨ n = cache.cells.length) := by
  obtain ⟨-, rfl, rfl⟩ := hmove.of_lookUp? hn
  refine ⟨(h.linked.slot name).2, ?_⟩
  rcases Cache.slot_cases cache name with ⟨hslot, -⟩ | ⟨-, hnew⟩
  · exact .inl (h.slots hslot)
  · exact .inr hnew

include h in
theorem bound_move (hmove : Move cache (stage event.task) event s cache')
    (hn : n ∈ lookUps name (log ++ [event])) : n < cache'.cells.length := by
  rcases mem_lookUps_concat.1 hn with hn | hn
  · exact Nat.lt_of_lt_of_le (h.bound hn) hmove.length_le
  · exact (h.told hmove hn).1

include h in
theorem name_eq_move {name' : String} (hmove : Move cache (stage event.task) event s cache')
    (hn : n ∈ lookUps name (log ++ [event])) (hn' : n ∈ lookUps name' (log ++ [event])) :
    name = name' := by
  have hmixed : ∀ {old new : String}, n ∈ lookUps old log → lookUp? new event = some n →
      old = new := by
    intro old new hold hnew
    rcases (h.told hmove hnew).2 with hknown | hfresh
    · exact h.name_eq hold hknown
    · exact absurd (h.bound hold) (hfresh ▸ Nat.lt_irrefl _)
  rcases mem_lookUps_concat.1 hn with hold | hnew <;>
    rcases mem_lookUps_concat.1 hn' with hold' | hnew'
  · exact h.name_eq hold hold'
  · exact hmixed hold hnew'
  · exact (hmixed hold' hnew).symm
  · exact lookUp?_name_eq hnew hnew'

include h in
/-- Nobody else waits for a cell that the task settles or starts. -/
theorem cell_of_others (hmove : Move cache (stage event.task) event s cache') {j : Nat}
    (hj : j ≠ event.task) (hfilling : (stage j).filling? = some n) : cache'.cell n = .busy := by
  have hbusy := h.busy hfilling
  have hcell := hmove.cell n
  rw [hbusy] at hcell
  generalize hc : cache'.cell n = c at hcell
  cases hcell with
  | same => rfl
  | filled hs => exact absurd (h.one hfilling (by rw [hs]; rfl)) hj
  | gaveUp hs => exact absurd (h.one hfilling hs) hj

include h in
/-- A slot whose cell has no template is the business of some task after a move, too. -/
theorem owed_move (hmove : Move cache (stage event.task) event s cache')
    (hslot : cache'.slots[name]? = some n) (hready : (cache'.cell n).isReady = false) :
    ∃ i, (Function.update stage event.task s i).slot? = some (name, n) := by
  rcases hmove.of_slots hslot with hold | hnew
  · have hready' : (cache.cell n).isReady = false := by
      have hcell := hmove.cell n
      generalize hc : cache.cell n = c at hcell
      generalize hc' : cache'.cell n = c' at hcell
      rw [hc'] at hready
      cases hcell with
      | same => exact hready
      | started => rfl
      | filled => cases hready
      | gaveUp hs => rw [← hc, h.busy hs]; rfl
      | added => cases hready
    obtain ⟨i, hi⟩ := h.owed hold hready'
    refine ⟨i, ?_⟩
    by_cases hself : i = event.task
    · subst hself
      rw [Function.update_self]
      exact hmove.slot?_kept hi (h.lt_of_slot? hi) hslot hready
    · rwa [Function.update_of_ne hself]
  · refine ⟨event.task, ?_⟩
    rw [Function.update_self, (hmove.of_lookUp? hnew).1]
    rfl

include h in
theorem made_move (hmove : Move cache (stage event.task) event s cache') {main : Template}
    {named : List Template} (hcell : cache'.cell n = .ready main named) :
    ∃ name source, n ∈ lookUps name (log ++ [event]) ∧ compile name source = .ok main ∧
      ∃ e ∈ log ++ [event], e.call = .inr (.fill n main) := by
  have hold : ∀ {named}, cache.cell n = .ready main named →
      ∃ name source, n ∈ lookUps name (log ++ [event]) ∧ compile name source = .ok main ∧
        ∃ e ∈ log ++ [event], e.call = .inr (.fill n main) := by
    intro named hready
    obtain ⟨name, source, hname, hcompile, e, he, hfill⟩ := h.made hready
    exact ⟨name, source, mem_lookUps_concat.2 (.inl hname), hcompile, e,
      List.mem_append_left _ he, hfill⟩
  have hchange := hmove.cell n
  rw [hcell] at hchange
  generalize hc : cache.cell n = c at hchange
  cases hchange with
  | same => exact hold hc
  | added main named template => exact hold hc
  | @filled c name content template hs hcall hyields =>
    obtain ⟨source, -, hcompile⟩ := hyields
    have hname : n ∈ lookUps name log := h.stages (i := event.task) (by rw [hs]; rfl)
    exact ⟨name, source, mem_lookUps_concat.2 (.inl hname), hcompile, event,
      List.mem_append_right _ (List.mem_singleton_self _), hcall⟩

include h in
theorem move (hmove : Move cache (stage event.task) event s cache') :
    Orderly (log ++ [event]) (Function.update stage event.task s) cache' := by
  refine {
    bound := h.bound_move hmove
    name_eq := h.name_eq_move hmove
    slots := fun hn => mem_lookUps_concat.2 ((hmove.of_slots hn).imp_left h.slots)
    stages := ?stages
    busy := ?busy
    one := ?one
    owed := h.owed_move hmove
    made := h.made_move hmove
    failed := ?failed }
  case stages =>
    intro i name n hi
    refine mem_lookUps_concat.2 ?_
    rcases of_update (P := fun s => s.slot? = some (name, n)) hi with ⟨rfl, hs⟩ | ⟨-, hs⟩
    · exact (hmove.of_slot? hs).imp_left h.stages
    · exact .inl (h.stages hs)
  case busy =>
    intro i n hi
    rcases of_update (P := fun s => s.filling? = some n) hi with ⟨rfl, hs⟩ | ⟨hother, hs⟩
    · rcases hmove.of_filling? hs with ⟨hfilling, rfl⟩ | ⟨⟨name, hholding⟩, -, rfl⟩
      · exact h.busy hfilling
      · have hslot : (stage event.task).slot? = some (name, n) := by
          rw [hholding]
          rfl
        have hlt := h.lt_of_slot? hslot
        rw [Cache.cell_setCell, if_pos ⟨rfl, hlt⟩]
    · exact h.cell_of_others hmove hother hs
  case one =>
    -- The task that moved fills a cell that it filled before, or one that nobody filled.
    have hmixed : ∀ {j n}, s.filling? = some n → (stage j).filling? = some n → j = event.task := by
      intro j n hs hj
      rcases hmove.of_filling? hs with ⟨hfilling, -⟩ | ⟨-, hempty, -⟩
      · exact h.one hj hfilling
      · rw [h.busy hj] at hempty
        cases hempty
    intro i j n hi hj
    rcases of_update (P := fun s => s.filling? = some n) hi with ⟨rfl, hs⟩ | ⟨hi', hs⟩ <;>
      rcases of_update (P := fun s => s.filling? = some n) hj with ⟨rfl, ht⟩ | ⟨hj', ht⟩
    · rfl
    · exact (hmixed hs ht).symm
    · exact hmixed ht hs
    · exact h.one hs ht
  case failed =>
    intro i name n hi
    rcases of_update (P := fun s => s = .failed name n) hi with ⟨rfl, rfl⟩ | ⟨-, hs⟩
    · generalize hs : stage event.task = s at hmove
      cases hmove with
      | gaveUp i => exact ⟨_, List.mem_append_right _ (List.mem_singleton_self _), rfl⟩
    · obtain ⟨e, he, hcall⟩ := h.failed hs
      exact ⟨e, List.mem_append_left _ he, hcall⟩

end Orderly

end

/-! ## Readings -/

/-- The file of a cell that is not given up is read once at most: not before somebody has leave to,
and not again after that. -/
structure ReadOnce (n : Nat) (stage : Nat → Stage) (cache : Cache)
    (readings : List (String × Nat)) : Prop where
  le_one : readings.countP (·.2 == n) ≤ 1
  unread : cache.cell n = .empty → readings.countP (·.2 == n) = 0
  leave : ∀ {i name}, stage i = .reading name n → readings.countP (·.2 == n) = 0

section

variable {log : List (Event engine)} {stage : Nat → Stage} {cache cache' : Cache} {s s' : Stage}
  {event : Event engine} {name : String} {n : Nat} {readings : List (String × Nat)}

theorem ReadOnce.empty : ReadOnce n (fun _ => .idle) default [] :=
  ⟨Nat.zero_le _, fun _ => rfl, fun _ => rfl⟩

/-- A reading is for the slot that the task is at, and all else is none. -/
theorem Move.reads_cases (h : Move cache s event s' cache') : s.reads event.call = [] ∨
    ∃ name n content, s = .reading name n ∧ s' = .compiling name n content ∧ cache' = cache ∧
      s.reads event.call = [(name, n)] := by
  cases h with
  | read i path content => exact .inr ⟨_, _, content, rfl, rfl, rfl, rfl⟩
  | _ => exact .inl rfl

theorem Move.empty_of_leave (h : Move cache s event (.reading name n) cache') :
    cache.cell n = .empty := by
  cases h with
  | started i hempty => exact hempty

theorem Move.empty_of_empty (h : Move cache s event s' cache')
    (hcall : event.call ≠ .inr (.abandon n)) (hempty : cache'.cell n = .empty) :
    cache.cell n = .empty := by
  have hcell := h.cell n
  rw [hempty] at hcell
  generalize hc : cache.cell n = c at hcell
  cases hcell with
  | same => rfl
  | gaveUp _ habandon => exact absurd habandon hcall

theorem ReadOnce.move (h : ReadOnce n stage cache readings) (horderly : Orderly log stage cache)
    (hmove : Move cache (stage event.task) event s cache')
    (hcall : event.call ≠ .inr (.abandon n)) :
    ReadOnce n (Function.update stage event.task s) cache'
      (readings ++ (stage event.task).reads event.call) := by
  rcases hmove.reads_cases with hnone | ⟨name, m, content, hreading, rfl, rfl, hone⟩
  · rw [hnone, List.append_nil]
    refine ⟨h.le_one, fun hempty => h.unread (hmove.empty_of_empty hcall hempty),
      fun {i name} hi => ?_⟩
    rcases of_update (P := fun s => s = .reading name n) hi with ⟨rfl, rfl⟩ | ⟨-, hi⟩
    · exact h.unread hmove.empty_of_leave
    · exact h.leave hi
  · rw [hone]
    by_cases hm : m = n
    · subst hm
      have hcount : (readings ++ [(name, m)]).countP (·.2 == m) = 1 := by
        rw [List.countP_append, h.leave hreading]
        simp
      have hfilling : (stage event.task).filling? = some m := by
        rw [hreading]
        rfl
      refine ⟨Nat.le_of_eq hcount, fun hempty => ?_, fun {i name} hi => ?_⟩
      · rw [horderly.busy hfilling] at hempty
        cases hempty
      · rcases of_update (P := fun s => s = .reading name m) hi with ⟨-, hs⟩ | ⟨hother, hi⟩
        · cases hs
        · exact absurd (horderly.one (by rw [hi]; rfl) hfilling) hother
    · have hcount : (readings ++ [(name, m)]).countP (·.2 == n) =
          readings.countP (·.2 == n) := by
        rw [List.countP_append]
        simp [hm]
      refine ⟨hcount.trans_le h.le_one, fun hempty => hcount.trans (h.unread hempty),
        fun {i name} hi => ?_⟩
      rcases of_update (P := fun s => s = .reading name n) hi with ⟨-, hs⟩ | ⟨-, hi⟩
      · cases hs
      · exact hcount.trans (h.leave hi)

end

/-! ## Courses -/

/-- The tasks and the cache are as the log tells. -/
structure Accords (log : List (Event engine)) (hall : Hall service Cache) : Prop where
  orderly : Orderly log (Account.ofLog log).stage hall.state
  follows : ∀ (i : Nat) t, hall.tasks[i]? = some t → t.rest.Follows Stage.step
    (Stage.Allows t.request.1) (fun _ s => s = .idle) ((Account.ofLog log).stage i)
  absent : ∀ i, hall.tasks.length ≤ i → (Account.ofLog log).stage i = .idle
  readOnce : ∀ n, (∀ event ∈ log, event.call ≠ .inr (.abandon n)) →
    ReadOnce n (Account.ofLog log).stage hall.state (Account.ofLog log).readings

section

variable {hall hall' : Hall service Cache} {log events before stretch later : List (Event engine)}
  {event : Event engine} {name : String} {n : Nat}

/-- Whoever is answered has asked what its stage allows. -/
theorem Accords.allows_of_step (h : Accords log hall) (hstep : hall.Step sharing [event] hall') :
    ∃ task, hall.tasks[event.task]? = some task ∧
      Stage.Allows task.request.1 event.call ((Account.ofLog log).stage event.task) ∧
        sharing event.call hall.state event.reply hall'.state := by
  cases hstep with
  | @answer i request call next reply cache' htask hanswer =>
    exact ⟨_, htask, (h.follows i _ htask).1, hanswer⟩

theorem Accords.enter (h : Accords log hall) (request : service.Request) :
    Accords log { hall with tasks := hall.tasks ++ [service.task request] } := by
  have hstep : hall.Step sharing [] { hall with tasks := hall.tasks ++ [service.task request] } :=
    .enter request
  refine ⟨h.orderly, ?_, fun i hi => ?_, h.readOnce⟩
  · refine hstep.forall_tasks h.follows (fun request _ => ?_) (fun _ _ _ _ ht => ht)
      fun _ _ hevents => nomatch hevents
    rw [h.absent _ (Nat.le_refl _)]
    exact request.2.concludes request.1
  · rw [List.length_append] at hi
    exact h.absent i (Nat.le_of_add_right_le hi)

theorem Accords.answer (h : Accords log hall) (hstep : hall.Step sharing [event] hall') :
    Accords (log ++ [event]) hall' := by
  obtain ⟨task, htask, hallows, hanswer⟩ := h.allows_of_step hstep
  have hmove := move_of_sharing hallows hanswer
  refine ⟨?orderly, ?follows, ?absent, ?readOnce⟩
  case orderly =>
    rw [Account.ofLog_concat]
    exact h.orderly.move hmove
  case follows =>
    refine hstep.forall_tasks h.follows (fun _ hevents => nomatch hevents) ?_ ?_
    · intro i t _ hothers ht
      have hi := hothers event (List.mem_singleton_self _)
      rwa [Account.stage_concat_of_ne log (Ne.symm hi)]
    · rintro i request call next reply ht - hevents
      obtain rfl := List.singleton_inj.1 hevents
      exact ht.2 reply _ (Account.stage_concat_self log _)
  case absent =>
    intro i hi
    have hlt := (List.getElem?_eq_some_iff.1 htask).1
    have hlength : hall.tasks.length = hall'.tasks.length := by
      cases hstep
      exact List.length_set.symm
    have hi : hall.tasks.length ≤ i := hlength ▸ hi
    rw [Account.stage_concat_of_ne log (Nat.ne_of_gt (Nat.lt_of_lt_of_le hlt hi))]
    exact h.absent i hi
  case readOnce =>
    intro n hkept
    rw [Account.ofLog_concat]
    exact (h.readOnce n fun e he => hkept e (List.mem_append_left _ he)).move h.orderly hmove
      (hkept event (List.mem_append_right _ (List.mem_singleton_self _)))

theorem accords (h : Hall.Course sharing ⟨default, []⟩ log hall) : Accords log hall := by
  induction h with
  | start =>
    refine ⟨.empty, fun i t hi => ?_, fun _ _ => rfl, fun _ _ => .empty⟩
    have hnobody : ([] : List service.Task)[i]? = none := List.getElem?_nil
    rw [hnobody] at hi
    cases hi
  | step _ hstep ih =>
    cases hstep with
    | enter request => exact List.append_nil _ ▸ ih.enter request
    | answer task hanswer => exact ih.answer (.answer task hanswer)

/-- While the cache is not cleared, a name has the cell that tasks were told, unless somebody gave
that cell up. -/
theorem slot_of_lookUps (h : Hall.Course sharing ⟨default, []⟩ log hall)
    (hlog : log = before ++ stretch) (hclear : ∀ event ∈ stretch, event.call ≠ .inr .clear)
    (hn : n ∈ lookUps name stretch) (hkept : ∀ event ∈ log, event.call ≠ .inr (.abandon n)) :
    hall.state.slots[name]? = some n := by
  induction h generalizing stretch with
  | start =>
    obtain ⟨-, rfl⟩ := List.append_eq_nil_iff.1 hlog.symm
    cases hn
  | @step log events hall₁ hall₂ hcourse hstep ih =>
    cases hstep with
    | enter request =>
      rw [List.append_nil] at hlog hkept
      exact ih hlog hclear hn hkept
    | @answer i request call next reply cache' htask hanswer =>
      rcases List.eq_nil_or_concat stretch with rfl | ⟨stretch, last, rfl⟩
      · cases hn
      rw [List.concat_eq_append] at hlog hclear hn
      rw [← List.append_assoc] at hlog
      obtain ⟨rfl, hlast⟩ := List.append_inj' hlog rfl
      obtain rfl := List.singleton_inj.1 hlast
      have haccords := accords hcourse
      have hstep : hall₁.Step sharing [⟨i, call, reply⟩] ⟨cache', _⟩ := .answer htask hanswer
      obtain ⟨_, -, hallows, -⟩ := haccords.allows_of_step hstep
      have hmove := move_of_sharing hallows hanswer
      rcases mem_lookUps_concat.1 hn with hn | hn
      · have hslot := ih rfl (fun e he => hclear e (List.mem_append_left _ he)) hn
          fun e he => hkept e (List.mem_append_left _ he)
        refine hmove.slots_kept (hclear _ (List.mem_append_right _ (List.mem_singleton_self _)))
          (fun hfailed => ?_) hslot
        obtain ⟨e, he, habandon⟩ := haccords.orderly.failed hfailed
        exact hkept e (List.mem_append_left _ he) habandon
      · obtain ⟨-, hslot, hcache⟩ := hmove.of_lookUp? hn
        change cache'.slots[name]? = some n
        rw [hcache, Cache.getElem?_slot, if_pos rfl, ← hslot]

/-- Nothing is left of a task that is done. -/
theorem Accords.idle_of_done (h : Accords log hall)
    (hdone : ∀ task ∈ hall.tasks, ∃ reply, task.rest = .done reply) (i : Nat) :
    (Account.ofLog log).stage i = .idle := by
  cases hi : hall.tasks[i]? with
  | none => exact h.absent i (List.getElem?_eq_none_iff.1 hi)
  | some task =>
    obtain ⟨reply, hrest⟩ := hdone task (List.mem_of_getElem? hi)
    have hends := h.follows i task hi
    rw [hrest] at hends
    exact hends

/-- When all tasks are done, every slot has a template that was compiled for its name. -/
theorem Accords.compiled_of_done (h : Accords log hall)
    (hdone : ∀ task ∈ hall.tasks, ∃ reply, task.rest = .done reply)
    (hslot : hall.state.slots[name]? = some n) : ∃ main named source,
      hall.state.cell n = .ready main named ∧ main.name = name ∧ compile name source = .ok main ∧
        ∃ event ∈ log, event.call = .inr (.fill n main) := by
  have hready : (hall.state.cell n).isReady = true := by
    by_contra hunready
    obtain ⟨i, hi⟩ := h.orderly.owed hslot (Bool.eq_false_iff.2 hunready)
    rw [h.idle_of_done hdone i] at hi
    cases hi
  cases hcell : hall.state.cell n with
  | ready main named =>
    obtain ⟨name', source, hname, hcompile, hfill⟩ := h.orderly.made hcell
    obtain rfl := h.orderly.name_eq hname (h.orderly.slots hslot)
    exact ⟨main, named, source, rfl, name_of_compile hcompile, hcompile, hfill⟩
  | _ =>
    rw [hcell] at hready
    cases hready

/-- The cells that a stretch tells for a name are one cell, and its file is read once at most. -/
theorem length_readings_le_one (h : Hall.Course sharing ⟨default, []⟩ log hall)
    (hlog : log = before ++ stretch ++ later)
    (hclear : ∀ event ∈ stretch, event.call ≠ .inr .clear)
    (hkept : ∀ n ∈ lookUps name stretch, ∀ event ∈ log, event.call ≠ .inr (.abandon n)) :
    ((Account.ofLog log).readings.filter fun slot =>
      slot.1 = name ∧ slot.2 ∈ lookUps name stretch).length ≤ 1 := by
  subst hlog
  obtain ⟨hall₁, hcut⟩ := h.of_append
  have hslot : ∀ n ∈ lookUps name stretch, hall₁.state.slots[name]? = some n := fun n hn =>
    slot_of_lookUps hcut rfl hclear hn fun e he => hkept n hn e (List.mem_append_left _ he)
  rw [← List.countP_eq_length_filter]
  cases htold : lookUps name stretch with
  | nil => simp
  | cons n rest =>
    rw [← htold]
    have hn : n ∈ lookUps name stretch := htold ▸ List.mem_cons_self
    refine Nat.le_trans (List.countP_mono_left fun slot _ hslot' => ?_)
      ((accords h).readOnce n (hkept n hn)).le_one
    have hsame := hslot slot.2 (of_decide_eq_true hslot').2
    rw [hslot n hn, Option.some.injEq] at hsame
    exact beq_iff_eq.2 hsame.symm

/-- A file is read for the template of a slot by who has leave to, or because a template names
it. -/
theorem reading_cases (h : Hall.Course sharing ⟨default, []⟩ log hall) {path : Path}
    (hlog : log = before ++ event :: later) (hcall : event.call = .inl (.read path)) :
    ∃ task, hall.tasks[event.task]? = some task ∧
      ((∃ name n, (Account.ofLog before).stage event.task = .reading name n ∧
          path = Name.file task.request.1 name) ∨
        ∃ wanted, Name.isLoadable wanted = true ∧
          path = Name.loadedFile task.request.1 wanted) := by
  subst hlog
  obtain ⟨hall₁, hall₂, hbefore, hstep, hafter⟩ := h.split
  obtain ⟨task, htask, hallows, -⟩ := (accords hbefore).allows_of_step hstep
  obtain ⟨task₂, htask₂, hrequest₂⟩ := (Hall.Course.start.step hstep).exists_task htask
  obtain ⟨task', htask', hrequest⟩ := hafter.exists_task htask₂
  refine ⟨task', htask', ?_⟩
  rw [hrequest, hrequest₂]
  rw [hcall] at hallows
  exact hallows.imp_right fun hidle => hidle.2

/-- When all tasks are done, the cache counts its slots, and each of them has a template that a task
compiled for its name, so that a name without one has no slot. Whoever asks for a name while the
cache is not cleared, and no template for it fails to compile, shares one reading of its file with
all others who do; other than that, files are read because templates name them. -/
theorem slots_settle (h : Hall.Course sharing ⟨default, []⟩ log hall) :
    ((∀ task ∈ hall.tasks, ∃ reply, task.rest = .done reply) →
      (∀ name n, hall.state.slots[name]? = some n → n ∈ lookUps name log ∧
        ∃ main named source, hall.state.cell n = .ready main named ∧ main.name = name ∧
          compile name source = .ok main ∧ ∃ event ∈ log, event.call = .inr (.fill n main)) ∧
      hall.state.count = hall.state.slots.size) ∧
    (∀ name before stretch later, log = before ++ stretch ++ later →
      (∀ event ∈ stretch, event.call ≠ .inr .clear) →
      (∀ n ∈ lookUps name stretch, ∀ event ∈ log, event.call ≠ .inr (.abandon n)) →
        ((Account.ofLog log).readings.filter fun slot =>
          slot.1 = name ∧ slot.2 ∈ lookUps name stretch).length ≤ 1) ∧
    ∀ before event later path, log = before ++ event :: later → event.call = .inl (.read path) →
      ∃ task, hall.tasks[event.task]? = some task ∧
        ((∃ name n, (Account.ofLog before).stage event.task = .reading name n ∧
            path = Name.file task.request.1 name) ∨
          ∃ wanted, Name.isLoadable wanted = true ∧
            path = Name.loadedFile task.request.1 wanted) := by
  refine ⟨fun hdone => ?_, fun name before stretch later => length_readings_le_one h,
    fun before event later path => reading_cases h⟩
  have hcompiled {name : String} {n : Nat} (hslot : hall.state.slots[name]? = some n) :=
    (accords h).compiled_of_done hdone hslot
  refine ⟨fun name n hslot => ⟨(accords h).orderly.slots hslot, hcompiled hslot⟩, ?_⟩
  have hready : ∀ slot ∈ hall.state.slots.toList, (hall.state.cell slot.2).isReady = true := by
    rintro ⟨name, n⟩ hmem
    obtain ⟨main, named, -, hcell, -⟩ :=
      hcompiled (Std.ExtTreeMap.mem_toList_iff_getElem?_eq_some.1 hmem)
    rw [hcell]
    rfl
  rw [Cache.count, List.filter_eq_self.2 hready, Std.ExtTreeMap.length_toList]

end

end Engine

namespace Crossing

open Engine (sharing service templateOf lookUps Account)

def root : Path := ⟨"/"⟩

def source : String := "x"

/-- A preloading that was told what the template is. -/
def compiling (n : Nat) : Except Cause Template → Script engine (Outcome Unit)
  | .ok template => .ask (.inr (.fill n template)) fun _ => .done (.ok ())
  | .error cause => .ask (.inr (.abandon n)) fun _ => .ask (.inr (.discard "m" n)) fun _ =>
    .done (.error (.render "m" cause))

/-- A preloading that has leave to read the template. -/
def reading (n : Nat) : Script engine (Outcome Unit) :=
  .ask (.inl (.read (Name.file root "m"))) fun content =>
    compiling n (templateOf root "m" (Job.textOf content))

/-- A preloading that was told the cell. -/
def holding (n : Nat) : Script engine (Outcome Unit) :=
  .ask (.inr (.start n)) fun found? =>
    match (found? : Option Template) with
    | some _ => .done (.ok ())
    | none => reading n

theorem normalize_m : Name.normalize "m" = .ok "m" :=
  Name.normalize_eq_ok (by decide +kernel) (by decide) (by decide +kernel)

set_option maxRecDepth 100000 in
theorem exists_compiled : ∃ main, compile "m" source = .ok main := by
  have hcompiles : (compile "m" source).toOption.isSome = true := by decide +kernel
  cases h : compile "m" source with
  | ok main => exact ⟨main, rfl⟩
  | error fault =>
    rw [h] at hcompiles
    cases hcompiles

-- Names, renderings and compiling take long to unfold.
attribute [local irreducible] Name.normalize Template.render compile

theorem preload_eq : Engine.preload root "m" = .ask (.inr (.slot "m")) holding := by
  unfold Engine.preload
  rw [normalize_m]
  dsimp only
  unfold Engine.obtain
  rw [Engine.read_eq]
  refine congrArg (Script.ask (I := engine) (.inr (.slot "m"))) (funext fun n => ?_)
  refine congrArg (Script.ask (I := engine) (.inr (.start n))) (funext fun found? => ?_)
  cases found? with
  | some template => rfl
  | none =>
    refine congrArg (Script.ask (I := engine) (.inl (.read (Name.file root "m"))))
      (funext fun content => ?_)
    change Script.bind (Script.bind (Script.done (templateOf root "m" (Job.textOf content))) _) _ =
      compiling n (templateOf root "m" (Job.textOf content))
    cases templateOf root "m" (Job.textOf content) <;> rfl

def told (i n : Nat) : Event engine := ⟨i, .inr (.slot "m"), n⟩

def started (i n : Nat) : Event engine := ⟨i, .inr (.start n), (none : Option Template)⟩

def readText (i : Nat) : Event engine :=
  ⟨i, .inl (.read (Name.file root "m")), (.ok source.toUTF8 : Except Disk.Fault ByteArray)⟩

def filled (i n : Nat) (main : Template) : Event engine := ⟨i, .inr (.fill n main), ()⟩

def cleared (i : Nat) : Event engine := ⟨i, .inr .clear, ()⟩

/-- A task that preloads the template. -/
def preloading (rest : Script engine (Outcome Unit)) : service.Task := ⟨(root, .preload "m"), rest⟩

def clearing (rest : Script engine Unit) : service.Task := ⟨(root, .clear), rest⟩

section

variable {tasks : List service.Task} {cells : List Cell} {cache : Cache} {main : Template} {n : Nat}

theorem course_answered {i : Nat} {request : service.Request} {call : engine.Call}
    {next : engine.Reply call → Script engine (service.Reply request)}
    {rest : Script engine (service.Reply request)} {cache' : Cache} {reply : engine.Reply call}
    (htask : tasks[i]? = some ⟨request, .ask call next⟩) (h : sharing call cache reply cache')
    (hrest : next reply = rest) : Hall.Course sharing ⟨cache, tasks⟩ [⟨i, call, reply⟩]
      ⟨cache', tasks.set i ⟨request, rest⟩⟩ :=
  hrest ▸ Hall.Course.start.step (.answer htask h)

theorem course_told (i : Nat) (htask : tasks[i]? = some (preloading (Engine.preload root "m"))) :
    Hall.Course sharing ⟨⟨∅, cells⟩, tasks⟩ [told i cells.length]
      ⟨⟨(∅ : Std.ExtTreeMap String Nat).insert "m" cells.length, cells ++ [.empty]⟩,
        tasks.set i (preloading (holding cells.length))⟩ := by
  have hslot : (⟨∅, cells⟩ : Cache).slots["m"]? = none := by simp
  rw [preload_eq] at htask
  exact course_answered htask ⟨rfl, Cache.slot_of_none hslot⟩ rfl

theorem course_cleared (i : Nat) (htask : tasks[i]? = some (clearing Engine.clear)) :
    Hall.Course sharing ⟨cache, tasks⟩ [cleared i]
      ⟨{ cache with slots := ∅ }, tasks.set i (clearing (.done ()))⟩ :=
  course_answered htask ⟨rfl, rfl⟩ rfl

theorem course_filled (i : Nat) (htask : tasks[i]? = some (preloading (holding n)))
    (hempty : cache.cell n = .empty) (hcompile : compile "m" source = .ok main) :
    Hall.Course sharing ⟨cache, tasks⟩ [started i n, readText i, filled i n main]
      ⟨(cache.setCell n .busy).setCell n (.ready main []),
        tasks.set i (preloading (.done (.ok ())))⟩ := by
  have htext : templateOf root "m" (Job.textOf (.ok source.toUTF8)) = .ok main :=
    Engine.templateOf_eq_ok_iff.2 ⟨source, Job.textOf_eq_ok_iff.2 rfl, hcompile⟩
  have hlt := (List.getElem?_eq_some_iff.1 htask).1
  have hstart : Hall.Course sharing ⟨cache, tasks⟩ [started i n]
      ⟨cache.setCell n .busy, tasks.set i (preloading (reading n))⟩ := by
    refine course_answered htask ⟨?_, ?_⟩ rfl
    · rw [Cache.isOpen, hempty]
      rfl
    · rw [Cache.answer, hempty]
      rfl
  have hread : Hall.Course sharing ⟨cache.setCell n .busy, tasks.set i (preloading (reading n))⟩
      [readText i] ⟨cache.setCell n .busy, (tasks.set i (preloading (reading n))).set i
        (preloading (compiling n (.ok main)))⟩ :=
    course_answered (List.getElem?_set_self hlt) rfl (congrArg (compiling n) htext)
  rw [List.set_set] at hread
  have hfill : Hall.Course sharing
      ⟨cache.setCell n .busy, tasks.set i (preloading (compiling n (.ok main)))⟩ [filled i n main]
      ⟨(cache.setCell n .busy).setCell n (.ready main []),
        (tasks.set i (preloading (compiling n (.ok main)))).set i
          (preloading (.done (.ok ())))⟩ :=
    course_answered (List.getElem?_set_self hlt) ⟨rfl, rfl⟩ rfl
  rw [List.set_set] at hfill
  exact (hstart.trans hread).trans hfill

end

/-- What is asked after the cache was cleared: a task is told a cell and fills it, and so does one
that was told its cell before. -/
def between (main : Template) : List (Event engine) :=
  [told 2 1, started 0 0, readText 0, filled 0 0 main, started 2 1, readText 2, filled 2 1 main]

def log (main : Template) : List (Event engine) :=
  [told 0 0, cleared 1] ++ between main

def last (main : Template) : Hall service Cache :=
  ⟨⟨(∅ : Std.ExtTreeMap String Nat).insert "m" 1, [.ready main [], .ready main []]⟩,
    [preloading (.done (.ok ())), clearing (.done ()), preloading (.done (.ok ()))]⟩

theorem course_entered (hall : Hall service Cache) (request : service.Request) :
    hall.Course sharing [] { hall with tasks := hall.tasks ++ [service.task request] } :=
  Hall.Course.start.step (.enter request)

theorem course_last {main : Template} (hcompile : compile "m" source = .ok main) :
    Hall.Course sharing ⟨default, []⟩ (log main) (last main) := by
  have hentered := ((course_entered ⟨default, []⟩ (root, .preload "m")).trans
    (course_entered _ (root, .clear))).trans (course_entered _ (root, .preload "m"))
  have htold := hentered.trans (course_told 0 rfl)
  have hcleared := htold.trans (course_cleared 1 rfl)
  have htold' := hcleared.trans (course_told 2 rfl)
  have hfilled := htold'.trans (course_filled 0 rfl rfl hcompile)
  exact hfilled.trans (course_filled 2 rfl rfl hcompile)

theorem call_mem_between {main : Template} {event : Event engine} (h : event ∈ between main) :
    event.call ≠ .inr .clear ∧ ∀ n, event.call ≠ .inr (.abandon n) := by
  simp only [between, List.mem_cons, List.not_mem_nil, or_false] at h
  rcases h with rfl | rfl | rfl | rfl | rfl | rfl | rfl <;>
    exact ⟨by rintro ⟨⟩, by rintro n ⟨⟩⟩

theorem call_mem_log {main : Template} {event : Event engine} (h : event ∈ log main) (n : Nat) :
    event.call ≠ .inr (.abandon n) := by
  rcases List.mem_append.1 h with h | h
  · simp only [List.mem_cons, List.not_mem_nil, or_false] at h
    rcases h with rfl | rfl <;> rintro ⟨⟩
  · exact (call_mem_between h).2 n

/-- The cache ends with one template, and the cell that the second task was told was read for
once. -/
theorem slots_settle_crossing : ∃ main, Hall.Course sharing ⟨default, []⟩ (log main) (last main) ∧
    (last main).state.slots["m"]? = some 1 ∧
    (last main).state.count = (last main).state.slots.size ∧
    ((Account.ofLog (log main)).readings.filter fun slot =>
      slot.1 = "m" ∧ slot.2 ∈ lookUps "m" (between main)).length ≤ 1 := by
  obtain ⟨main, hcompile⟩ := exists_compiled
  have hcourse := course_last hcompile
  obtain ⟨hdone, honce, -⟩ := Engine.slots_settle hcourse
  refine ⟨main, hcourse, Std.ExtTreeMap.getElem?_insert_self, (hdone ?_).2,
    honce "m" [told 0 0, cleared 1] (between main) [] rfl (fun _ h => (call_mem_between h).1)
      fun n _ _ h => call_mem_log h n⟩
  intro task htask
  simp only [last, List.mem_cons, List.not_mem_nil, or_false] at htask
  rcases htask with rfl | rfl | rfl <;> exact ⟨_, rfl⟩

/-! A file is read for a second time between two clearings, by a task that was told its cell before
the first one, or because another template names the file. -/

def world (text : String) : World :=
  ⟨⟨((∅ : Std.ExtTreeMap Disk.Location Disk.Entry).insert ["m.j2"] (.file text.toUTF8)).insert
    ["n.j2"] (.file "\x7b% include 'm.j2' %\x7d".toUTF8), []⟩, default, 0, false⟩

set_option maxRecDepth 100000 in
theorem file_is_read_twice :
    (∃ (main : Template) (hall : Hall service Cache), Hall.Course sharing ⟨default, []⟩
      ([told 0 0, cleared 1] ++ between main ++ [cleared 3]) hall ∧
      (∀ event ∈ between main, event.call ≠ .inr .clear ∧ ∀ n, event.call ≠ .inr (.abandon n)) ∧
      readText 0 ∈ between main ∧ readText 2 ∈ between main) ∧
    (runAlone (Engine.preload root "m") (world "old") default).1.toOption = some () ∧
    (runAlone (Engine.render root "n" (.object [])) (world "new")
      (runAlone (Engine.preload root "m") (world "old") default).2.2).1.toOption = some "new" := by
  refine ⟨?_, by decide +kernel⟩
  obtain ⟨main, hcompile⟩ := exists_compiled
  have hcourse := ((course_last hcompile).trans (course_entered _ (root, .clear))).trans
    (course_cleared 3 rfl)
  refine ⟨main, _, List.append_nil (log main) ▸ hcourse, fun _ => call_mem_between, ?_, ?_⟩ <;>
    simp [between]

end Crossing
end SchemaCodegen.Template
