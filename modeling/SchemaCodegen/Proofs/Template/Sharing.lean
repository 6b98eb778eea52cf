import Mathlib.Logic.Function.Basic
import SchemaCodegen.Proofs.Script.Interleaving
import SchemaCodegen.Proofs.Template.Caching

/-!
# Engines that share a cache

Any number of tasks ask engines that share a cache, while files come and go. A cell that is being
filled is so by one task: a task fills or gives up only a cell that it was told to read, before it
starts another (`Engine.Settles`), and nobody is told to read a cell that is being filled
(`Engine.Arranged`). So a template that the cache has for a name stays there until the cache is
cleared (`Cache.Has.answer`), and every task that asks for the name is told that template. It then
reads no files but those of templates that the rendering names itself
(`Engine.compiled_stays_available`); the file of the template may be one of them
(`SelfIncluding.own_file_is_read`).
-/

namespace SchemaCodegen.Template

/-! ## What the cache keeps until it is cleared -/

namespace Cache

variable {cache : Cache} {name : String} {n m : Nat} {template : Template} {call : Call}

/-- The cell that a call fills, or gives up filling. -/
def Call.settles? : Call → Option Nat
  | .fill n _ => some n
  | .abandon n => some n
  | _ => none

/-- The slot of a name has a cell that holds a template. -/
structure Has (cache : Cache) (name : String) (n : Nat) (template : Template) : Prop where
  slot : cache.slots[name]? = some n
  main : (cache.cell n).main? = some template

theorem lt_length_of_ne_empty (h : cache.cell n ≠ .empty) : n < cache.cells.length := by
  by_cases hn : n < cache.cells.length
  · exact hn
  · exact absurd (by rw [cell, List.getElem?_eq_none (Nat.le_of_not_lt hn)]; rfl) h

theorem cell_slot (h : cache.cell n ≠ .empty) : (cache.slot name).2.cell n = cache.cell n := by
  cases hslot : cache.slots[name]? with
  | some k => rw [slot_of_some hslot]
  | none =>
    rw [slot_of_none hslot]
    simp only [cell, opened, List.getElem?_append_left (lt_length_of_ne_empty h)]

theorem cell_setCell_of_ne {c : Cell} (h : m ≠ n) : (cache.setCell n c).cell m = cache.cell m := by
  rw [cell_setCell, if_neg fun hm => h hm.1]

theorem main?_add {c : Cell} : (c.add template).main? = c.main? := by
  cases c <;> rfl

theorem cells_discard : (cache.discard name n).cells = cache.cells := by
  rw [discard]
  split <;> rfl

theorem length_setCell {c : Cell} : (cache.setCell n c).cells.length = cache.cells.length := by
  rw [setCell, List.length_set]

theorem length_le_slot : cache.cells.length ≤ (cache.slot name).2.cells.length := by
  rw [slot]
  split
  · exact Nat.le_refl _
  · simp

/-- The cells of all slots are there. -/
def Linked (cache : Cache) : Prop :=
  ∀ (name : String) (n : Nat), cache.slots[name]? = some n → n < cache.cells.length

theorem Linked.slot (h : cache.Linked) (name : String) : (cache.slot name).2.Linked ∧
    (cache.slot name).1 < (cache.slot name).2.cells.length := by
  cases hslot : cache.slots[name]? with
  | some k =>
    rw [slot_of_some hslot]
    exact ⟨h, h name k hslot⟩
  | none =>
    rw [slot_of_none hslot]
    have hlength : (cache.opened name .empty).cells.length = cache.cells.length + 1 := by
      simp [opened]
    refine ⟨fun name' n hn => ?_, by rw [hlength]; exact Nat.lt_succ_self _⟩
    change (cache.slots.insert name _)[name']? = some n at hn
    rw [Std.ExtTreeMap.getElem?_insert] at hn
    rw [hlength]
    split at hn
    · cases hn
      exact Nat.lt_succ_self _
    · exact Nat.lt_succ_of_lt (h name' n hn)

theorem length_le_answer (cache : Cache) (call : Call) :
    cache.cells.length ≤ (answer call cache).2.cells.length := by
  cases call with
  | slot name => exact length_le_slot
  | start n =>
    rw [answer]
    cases (cache.cell n).main? with
    | some template => exact Nat.le_refl _
    | none => exact Nat.le_of_eq length_setCell.symm
  | discard name n => exact Nat.le_of_eq (congrArg List.length cells_discard.symm)
  | fill n template => exact Nat.le_of_eq length_setCell.symm
  | abandon n => exact Nat.le_of_eq length_setCell.symm
  | add n template => exact Nat.le_of_eq length_setCell.symm
  | find n name => exact Nat.le_refl _
  | clear => exact Nat.le_refl _
  | count => exact Nat.le_refl _

theorem Linked.answer (h : cache.Linked) (call : Call) : (answer call cache).2.Linked := by
  have hset (n : Nat) (c : Cell) : (cache.setCell n c).Linked := fun name m hm => by
    rw [length_setCell]
    exact h name m hm
  cases call with
  | slot name => exact (h.slot name).1
  | start n =>
    rw [Cache.answer]
    cases (cache.cell n).main? with
    | some template => exact h
    | none => exact hset n .busy
  | fill n template => exact hset n _
  | abandon n => exact hset n _
  | add n template => exact hset n _
  | discard name n =>
    intro name' m hm
    change m < (cache.discard name n).cells.length
    rw [cells_discard]
    rw [Cache.answer, discard] at hm
    split at hm
    · change (cache.slots.erase name)[name']? = some m at hm
      rw [Std.ExtTreeMap.getElem?_erase] at hm
      split at hm
      · cases hm
      · exact h name' m hm
    · exact h name' m hm
  | find n name => exact h
  | clear =>
    intro name n hn
    change (∅ : Std.ExtTreeMap String Nat)[name]? = some n at hn
    simp at hn
  | count => exact h

/-- A cell that is being filled stays so until that is settled. -/
theorem cell_answer_of_busy (hbusy : cache.cell n = .busy) (hcall : call.settles? ≠ some n) :
    (answer call cache).2.cell n = .busy := by
  cases call with
  | slot name =>
    rw [answer, cell_slot (by rw [hbusy]; exact Cell.noConfusion), hbusy]
  | start m =>
    rw [answer]
    cases (cache.cell m).main? with
    | some template => exact hbusy
    | none =>
      rw [cell_setCell]
      split
      · rfl
      · exact hbusy
  | fill m template =>
    have hne : n ≠ m := fun heq => hcall (by rw [heq]; rfl)
    rw [answer, cell_setCell_of_ne hne, hbusy]
  | abandon m =>
    have hne : n ≠ m := fun heq => hcall (by rw [heq]; rfl)
    rw [answer, cell_setCell_of_ne hne, hbusy]
  | discard name m => rw [answer, cell, cells_discard, ← cell, hbusy]
  | find m name => exact hbusy
  | add m template =>
    rw [answer, cell_setCell]
    split
    · next hm =>
      rw [← hm.1, hbusy]
      rfl
    · exact hbusy
  | clear => exact hbusy
  | count => exact hbusy

theorem Has.isReady (h : cache.Has name n template) : (cache.cell n).isReady = true := by
  have hmain := h.main
  cases hcell : cache.cell n with
  | ready main named => rfl
  | _ => rw [hcell] at hmain; cases hmain

/-- A name that is looked up for the first time gets a cell of its own. -/
theorem Has.lookUp (h : cache.Has name n template) (asked : String) :
    (cache.slot asked).2.Has name n template := by
  cases hasked : cache.slots[asked]? with
  | some k =>
    rw [slot_of_some hasked]
    exact h
  | none =>
    rw [slot_of_none hasked]
    refine ⟨?_, by rw [cell_opened_of_isReady h.isReady, h.main]⟩
    have hname : asked ≠ name := by
      rintro rfl
      rw [h.slot] at hasked
      cases hasked
    change (cache.slots.insert asked _)[name]? = some n
    rw [Std.ExtTreeMap.getElem?_insert, if_neg, h.slot]
    exact fun heq => hname (Std.LawfulEqCmp.eq_of_compare heq)

/-- Only slots whose cells are not ready are discarded. -/
theorem Has.discard (h : cache.Has name n template) (asked : String) (m : Nat) :
    (cache.discard asked m).Has name n template := by
  refine ⟨?_, by rw [cell, cells_discard, ← cell, h.main]⟩
  rw [Cache.discard]
  split
  · next hdiscard =>
    have hname : asked ≠ name := by
      rintro rfl
      obtain ⟨hslot, hunready⟩ := hdiscard
      rw [h.slot, Option.some.injEq] at hslot
      rw [← hslot, h.isReady] at hunready
      cases hunready
    change (cache.slots.erase asked)[name]? = some n
    rw [Std.ExtTreeMap.getElem?_erase, if_neg, h.slot]
    exact fun heq => hname (Std.LawfulEqCmp.eq_of_compare heq)
  · exact h.slot

theorem Has.setCell (h : cache.Has name n template) {m : Nat} (hne : n ≠ m) (c : Cell) :
    (cache.setCell m c).Has name n template :=
  ⟨h.slot, by rw [cell_setCell_of_ne hne, h.main]⟩

/-- What a name has stays there, unless the cache is cleared or the cell is filled again. -/
theorem Has.answer (h : cache.Has name n template) (hclear : call ≠ .clear)
    (hcall : ∀ m, call.settles? = some m → cache.cell m = .busy) :
    (answer call cache).2.Has name n template := by
  have hne : ∀ m, call.settles? = some m → n ≠ m := by
    rintro m hm rfl
    have hready := h.isReady
    rw [hcall n hm] at hready
    cases hready
  cases call with
  | slot asked => exact h.lookUp asked
  | start m =>
    rw [Cache.answer]
    cases hm : (cache.cell m).main? with
    | some template => exact h
    | none =>
      have hnm : n ≠ m := by
        rintro rfl
        rw [h.main] at hm
        cases hm
      exact h.setCell hnm .busy
  | fill m template => exact h.setCell (hne m rfl) _
  | abandon m => exact h.setCell (hne m rfl) _
  | discard asked m => exact h.discard asked m
  | find m asked => exact h
  | add m template' =>
    refine ⟨h.slot, ?_⟩
    rw [Cache.answer, cell_setCell]
    split
    · next hm => rw [← hm.1, main?_add, h.main]
    · exact h.main
  | clear => exact absurd rfl hclear
  | count => exact h

end Cache

namespace Engine

/-! ## Protocol -/

/-- How far a task has come with cells: how many there are at least, and which one it is to fill. -/
structure Standing where
  known : Nat
  filling : Option Nat

namespace Standing

/-- What a task learns from the cache. -/
def after (s : Standing) : (call : Cache.Call) → Cache.Reply call → Standing
  | .slot _, n => { s with known := max s.known (Nat.succ n) }
  | .start n, none => { s with filling := some n }
  | .fill _ _, _ => { s with filling := none }
  | .abandon _, _ => { s with filling := none }
  | _, _ => s

/-- Only a cell that is there is started, and only while no other is to be filled; only the cell
that was started is filled or given up. -/
def Permits (s : Standing) : Cache.Call → Prop
  | .start n => n < s.known ∧ s.filling = none
  | .fill n _ => s.filling = some n
  | .abandon n => s.filling = some n
  | _ => True

def step : engine.Step Standing
  | .inl _, s, _, s' => s' = s
  | .inr call, s, reply, s' => s' = s.after call reply

def Allows : engine.Call → Standing → Prop
  | .inl _, _ => True
  | .inr call, s => s.Permits call

/-- Nothing is left to be filled. -/
def IsFree (s : Standing) : Prop :=
  s.filling = none

end Standing

variable {α β : Type} {root : Path} {name : String} {s : Standing}

theorem follows_ask {call : Cache.Call} {final : Cache.Reply call → Standing → Prop}
    (h : s.Permits call) (hfinal : ∀ reply, final reply (s.after call reply)) :
    (ask call).Follows Standing.step Standing.Allows final s := by
  refine .right (.call h fun reply t ht => ?_)
  rw [ht]
  exact hfinal reply

theorem follows_ofMachine (m : Script machine α) :
    (ofMachine m).Follows Standing.step Standing.Allows (fun _ t => t = s) s := by
  have hall : m.Asks fun _ => True := .of_forall (fun _ => trivial) m
  exact .left (.of_asks hall fun _ _ => ⟨trivial, fun _ _ ht => ht⟩)

/-- A script that settles every cell that it starts. -/
def Settles (m : Script engine α) : Prop :=
  ∀ s : Standing, s.IsFree → m.Follows Standing.step Standing.Allows (fun _ t => t.IsFree) s

namespace Settles

theorem pure (a : α) : Settles (Pure.pure a : Script engine α) :=
  fun _ hs => .pure hs

theorem bind {m : Script engine α} {f : α → Script engine β} (hm : Settles m)
    (hf : ∀ a, Settles (f a)) : Settles (m >>= f) :=
  fun s hs => .bind (hm s hs) fun a t ht => hf a t ht

theorem ofMachine (m : Script machine α) : Settles (Engine.ofMachine m) := by
  intro s hs
  refine (follows_ofMachine m).mono fun _ t ht => ?_
  rw [ht]
  exact hs

/-- A question that has nothing to do with the filling of cells. -/
theorem ask (call : Cache.Call) (h : ∀ s : Standing, s.Permits call)
    (hafter : ∀ (s : Standing) reply, (s.after call reply).filling = s.filling) :
    Settles (Engine.ask call) :=
  fun s hs => follows_ask (h s) fun reply => (hafter s reply).trans hs

theorem interpret {m : Script templates α} {f : String → Script engine (Except Fault Template)}
    (hf : ∀ name, Settles (f name)) : Settles (m.interpret (I := templates) f) :=
  fun _ hs => (Script.Follows.interpret m.asks_mayAsk (fun name s _ hs => hf name s hs) hs).mono
    fun _ _ ht => ht.1

end Settles

theorem settles_obtain : Settles (obtain root name) := by
  intro s hs
  have hslot : (ask (.slot name)).Follows Standing.step Standing.Allows
      (fun (n : Nat) t => t.IsFree ∧ n < t.known) s :=
    follows_ask trivial fun n =>
      ⟨hs, Nat.lt_of_lt_of_le (Nat.lt_succ_self n) (Nat.le_max_right _ _)⟩
  refine hslot.bind fun n t ⟨ht, hn⟩ => ?_
  have hstart : (ask (.start n)).Follows Standing.step Standing.Allows
      (fun (found? : Option Template) u =>
        u.filling = if found?.isSome then none else some n) t := by
    refine follows_ask ⟨hn, ht⟩ fun found? => ?_
    cases found? with
    | some template => exact ht
    | none => rfl
  refine hstart.bind fun found? u hu => ?_
  cases found? with
  | some template => exact .pure hu
  | none =>
    refine (follows_ofMachine (read root name)).bind fun result v hv => ?_
    rw [hv]
    cases result with
    | ok template =>
      have hfill : (ask (.fill n template)).Follows Standing.step Standing.Allows
          (fun _ t => t.IsFree) u := follows_ask hu fun _ => rfl
      exact hfill.bind fun _ t ht => .pure ht
    | error cause =>
      have habandon : (ask (.abandon n)).Follows Standing.step Standing.Allows
          (fun _ t => t.IsFree) u := follows_ask hu fun _ => rfl
      refine habandon.bind fun _ t ht => ?_
      exact (Settles.ask (.discard name n) (fun _ => trivial) fun _ _ => rfl).bind
        (fun _ => .pure _) t ht

theorem settles_obtainNamed {n : Nat} : Settles (obtainNamed root n name) := by
  refine (Settles.ask (.find n name) (fun _ => trivial) fun _ _ => rfl).bind fun found? => ?_
  cases found? with
  | some template => exact .pure _
  | none =>
    refine (Settles.ofMachine _).bind fun result => ?_
    cases result with
    | ok template =>
      exact (Settles.ask (.add n template) (fun _ => trivial) fun _ _ => rfl).bind fun _ => .pure _
    | error fault => exact .pure _

section

-- Names, renderings and listings take long to unfold.
attribute [local irreducible] Name.normalize Template.render namesBelow

theorem settles_preload : Settles (preload root name) := by
  unfold preload
  cases Name.normalize name with
  | error failure => exact .pure _
  | ok normalized => exact settles_obtain.bind fun _ => .pure _

theorem settles_preloadEach (names : List String) : Settles (preloadEach root names) := by
  induction names with
  | nil => exact .pure _
  | cons name names ih =>
    refine settles_preload.bind fun outcome => ?_
    cases outcome with
    | error failure => exact .pure _
    | ok => exact ih

theorem settles_render {data : Json} : Settles (render root name data) := by
  unfold render
  cases Name.normalize name with
  | error failure => exact .pure _
  | ok normalized =>
    dsimp only
    split
    · exact .pure _
    · refine settles_obtain.bind fun obtained => ?_
      cases obtained with
      | error failure => exact .pure _
      | ok found =>
        refine (Settles.interpret fun _ => settles_obtainNamed).bind fun result => ?_
        cases result <;> exact .pure _

theorem Request.settles (root : Path) (request : Request) : Settles (request.script root) := by
  cases request with
  | render name data => exact settles_render
  | preload name => exact settles_preload
  | preloadAll =>
    refine (Settles.ofMachine _).bind fun listed => ?_
    cases listed with
    | error failure => exact .pure _
    | ok names => exact (settles_preloadEach _).bind fun _ => .pure _
  | clear => exact .ask .clear (fun _ => trivial) fun _ _ => rfl

end

/-! ## Tasks -/

/-- Requests to engines with any roots. -/
def service : Service engine where
  Request := Path × Request
  Reply request := request.2.Reply
  script request := request.2.script request.1

/-- Files come and go at any time, so the machine may answer anything. The cache answers those who
need not wait. -/
def sharing : engine.Step Cache
  | .inl _, cache, _, cache' => cache' = cache
  | .inr call, cache, reply, cache' =>
    cache.isOpen call = true ∧ Cache.answer call cache = (reply, cache')

/-- What each task has come to with the cells: a cell that is being filled is so by one task. -/
structure Arranged (hall : Hall service Cache) (standing : Nat → Standing) : Prop where
  linked : hall.state.Linked
  follows : ∀ (i : Nat) t, hall.tasks[i]? = some t →
    t.rest.Follows Standing.step Standing.Allows (fun _ s => s.IsFree) (standing i)
  known : ∀ i, (standing i).known ≤ hall.state.cells.length
  busy : ∀ i n, (standing i).filling = some n → hall.state.cell n = .busy
  one : ∀ i j n, (standing i).filling = some n → (standing j).filling = some n → i = j

section

variable {hall hall' : Hall service Cache} {standing : Nat → Standing}
  {events : List (Event engine)}
  {call : Cache.Call} {reply : Cache.Reply call} {cache cache' : Cache} {n : Nat}
  {template : Template}

theorem filling_after (hanswer : Cache.answer call cache = (reply, cache'))
    (h : (s.after call reply).filling = some n) :
    s.filling = some n ∧ call.settles? = none ∨
      call = .start n ∧ (n < cache.cells.length → cache'.cell n = .busy) := by
  cases call with
  | start m =>
    rw [Cache.answer] at hanswer
    cases hmain : (cache.cell m).main? with
    | some template =>
      rw [hmain] at hanswer
      cases hanswer
      exact .inl ⟨h, rfl⟩
    | none =>
      rw [hmain] at hanswer
      cases hanswer
      cases h
      exact .inr ⟨rfl, fun hlt => by rw [Cache.cell_setCell, if_pos ⟨rfl, hlt⟩]⟩
  | fill m template => cases h
  | abandon m => cases h
  | _ => exact .inl ⟨h, rfl⟩

theorem known_after (hlinked : cache.Linked) (hanswer : Cache.answer call cache = (reply, cache'))
    (h : s.known ≤ cache.cells.length) : (s.after call reply).known ≤ cache'.cells.length := by
  have hlength : cache.cells.length ≤ cache'.cells.length := by
    have hlength := cache.length_le_answer call
    rwa [hanswer] at hlength
  have hknown := Nat.le_trans h hlength
  cases call with
  | slot name =>
    have hslot := (hlinked.slot name).2
    change cache.slot name = (reply, cache') at hanswer
    rw [hanswer] at hslot
    exact Nat.max_le.2 ⟨hknown, hslot⟩
  | start m => cases reply <;> exact hknown
  | _ => exact hknown

theorem filling_of_settles (h : s.Permits call) (hcall : call.settles? = some n) :
    s.filling = some n := by
  cases call <;> cases hcall <;> exact h

/-- A task that comes in has nothing to fill. -/
theorem Arranged.enter (h : Arranged hall standing) (request : service.Request) :
    Arranged { hall with tasks := hall.tasks ++ [service.task request] }
      (Function.update standing hall.tasks.length ⟨0, none⟩) := by
  have hfilling : ∀ i n, (Function.update standing hall.tasks.length ⟨0, none⟩ i).filling = some n →
      (standing i).filling = some n := by
    intro i n hi
    by_cases hnew : i = hall.tasks.length
    · rw [hnew, Function.update_self] at hi
      cases hi
    · rwa [Function.update_of_ne hnew] at hi
  refine ⟨h.linked, ?follows, ?known, fun i n hi => h.busy i n (hfilling i n hi),
    fun i j n hi hj => h.one i j n (hfilling i n hi) (hfilling j n hj)⟩
  case follows =>
    have hstep : hall.Step sharing [] _ := .enter request
    refine hstep.forall_tasks h.follows (fun request _ => ?_) (fun i t hlt _ ht => ?_)
      fun _ _ hevents => nomatch hevents
    · rw [Function.update_self]
      exact request.2.settles request.1 ⟨0, none⟩ rfl
    · rwa [Function.update_of_ne (Nat.ne_of_lt hlt)]
  case known =>
    intro i
    by_cases hnew : i = hall.tasks.length
    · rw [hnew, Function.update_self]
      exact Nat.zero_le _
    · rw [Function.update_of_ne hnew]
      exact h.known i

/-- After an answer, a cell that is to be filled was to be filled before, or nobody was filling it
and now the task does that was answered. -/
theorem Arranged.filling_of_answer (h : Arranged hall standing) {i j : Nat}
    (hpermits : (standing i).Permits call) (hopen : hall.state.isOpen call = true)
    (hanswer : Cache.answer call hall.state = (reply, cache'))
    (hj : (Function.update standing i ((standing i).after call reply) j).filling = some n) :
    (standing j).filling = some n ∧ cache'.cell n = .busy ∨
      j = i ∧ hall.state.cell n ≠ .busy ∧ cache'.cell n = .busy := by
  have hstays : (standing j).filling = some n → call.settles? ≠ some n →
      cache'.cell n = .busy := by
    intro hold hcall
    have hkept := Cache.cell_answer_of_busy (h.busy j n hold) hcall
    rwa [hanswer] at hkept
  by_cases hji : j = i
  · subst hji
    rw [Function.update_self] at hj
    rcases filling_after hanswer hj with ⟨hold, hcall⟩ | ⟨rfl, hcell⟩
    · exact .inl ⟨hold, hstays hold (by rw [hcall]; exact fun heq => nomatch heq)⟩
    · refine .inr ⟨rfl, fun hn => ?_, hcell (Nat.lt_of_lt_of_le hpermits.1 (h.known j))⟩
      rw [Cache.isOpen, hn] at hopen
      cases hopen
  · rw [Function.update_of_ne hji] at hj
    exact .inl ⟨hj, hstays hj fun hcall =>
      hji (h.one j i n hj (filling_of_settles hpermits hcall))⟩

/-- A task that has a question answered by the cache. -/
theorem Arranged.answer (h : Arranged hall standing) {i : Nat} {request : service.Request}
    {next : Cache.Reply call → Script engine (service.Reply request)}
    (htask : hall.tasks[i]? = some ⟨request, .ask (.inr call) next⟩)
    (hopen : hall.state.isOpen call = true)
    (hanswer : Cache.answer call hall.state = (reply, cache')) :
    Arranged ⟨cache', hall.tasks.set i ⟨request, next reply⟩⟩
      (Function.update standing i ((standing i).after call reply)) := by
  have hpermits := (h.follows i _ htask).1
  refine ⟨?linked, ?follows, ?known, ?busy, ?one⟩
  case linked =>
    have hlinked := h.linked.answer call
    rwa [hanswer] at hlinked
  case follows =>
    have hstep : hall.Step sharing [⟨i, .inr call, reply⟩] _ := .answer htask ⟨hopen, hanswer⟩
    refine hstep.forall_tasks h.follows (fun _ hevents => nomatch hevents) ?_ ?_
    · intro j t _ hothers ht
      have hij := hothers _ (List.mem_singleton_self _)
      rwa [Function.update_of_ne (Ne.symm hij)]
    · rintro j request call next reply ht - ⟨⟩
      rw [Function.update_self]
      exact ht.2 reply _ rfl
  case known =>
    intro j
    by_cases hji : j = i
    · subst hji
      rw [Function.update_self]
      exact known_after h.linked hanswer (h.known j)
    · have hlength := hall.state.length_le_answer call
      rw [hanswer] at hlength
      rw [Function.update_of_ne hji]
      exact Nat.le_trans (h.known j) hlength
  case busy =>
    intro j n hj
    rcases h.filling_of_answer hpermits hopen hanswer hj with ⟨-, hn⟩ | ⟨-, -, hn⟩ <;> exact hn
  case one =>
    intro j k n hj hk
    rcases h.filling_of_answer hpermits hopen hanswer hj with ⟨hj', -⟩ | ⟨hji, hn, -⟩ <;>
      rcases h.filling_of_answer hpermits hopen hanswer hk with ⟨hk', -⟩ | ⟨hki, hn', -⟩
    · exact h.one j k n hj' hk'
    · exact absurd (h.busy j n hj') hn'
    · exact absurd (h.busy k n hk') hn
    · exact hji.trans hki.symm

/-- A task that has a question answered by the machine. -/
theorem Arranged.answerMachine (h : Arranged hall standing) {i : Nat} {request : service.Request}
    {call : Machine.Call} {next : Machine.Reply call → Script engine (service.Reply request)}
    (htask : hall.tasks[i]? = some ⟨request, .ask (.inl call) next⟩) (reply : Machine.Reply call) :
    Arranged { hall with tasks := hall.tasks.set i ⟨request, next reply⟩ } standing := by
  have hstep : hall.Step sharing [⟨i, .inl call, reply⟩] _ := .answer htask rfl
  refine ⟨h.linked, ?_, h.known, h.busy, h.one⟩
  refine hstep.forall_tasks h.follows (fun _ hevents => nomatch hevents) (fun _ _ _ _ ht => ht) ?_
  rintro j request call next reply ht - ⟨⟩
  exact ht.2 _ _ rfl

theorem exists_arranged_of_step (h : hall.Step sharing events hall')
    (harranged : Arranged hall standing) : ∃ standing', Arranged hall' standing' := by
  cases h with
  | enter request => exact ⟨_, harranged.enter request⟩
  | @answer i request call next reply cache' task hstep =>
    rcases call with call | call
    · refine ⟨standing, ?_⟩
      cases hstep
      exact harranged.answerMachine task reply
    · exact ⟨_, harranged.answer task hstep.1 hstep.2⟩

theorem has_of_step {n : Nat} (h : hall.Step sharing events hall')
    (harranged : Arranged hall standing) (hclear : ∀ event ∈ events, event.call ≠ .inr .clear)
    (hhas : hall.state.Has name n template) : hall'.state.Has name n template := by
  cases h with
  | enter request => exact hhas
  | @answer i request call next reply cache' task hstep =>
    rcases call with call | call
    · cases hstep
      exact hhas
    · have hpermits := (harranged.follows i _ task).1
      have hquiet : call ≠ .clear := fun heq =>
        hclear _ (List.mem_singleton_self _) (congrArg Sum.inr heq)
      have hkept := hhas.answer hquiet fun m hm =>
        harranged.busy i m (filling_of_settles hpermits hm)
      rwa [hstep.2] at hkept

end

/-! ## Renderings of a template that the cache has -/

/-- Where the cache has a template for a name, those who ask for it are led there and told it. -/
def Tells (name : String) (n : Nat) (template : Template) : (call : Cache.Call) →
    Cache.Reply call → Prop
  | .slot asked, (m : Nat) => asked = name → m = n
  | .start m, found? => m = n → found? = some template
  | _, _ => True

def telling (name : String) (n : Nat) (template : Template) : engine.Step Unit
  | .inl _, _, _, _ => True
  | .inr call, _, reply, _ => Tells name n template call reply

section

variable {hall hall' : Hall service Cache} {log : List (Event engine)} {n : Nat}
  {template : Template} {cache : Cache}

theorem tells_answer (h : cache.Has name n template) (call : Cache.Call) :
    Tells name n template call (Cache.answer call cache).1 := by
  cases call with
  | slot asked =>
    rintro rfl
    exact congrArg Prod.fst (Cache.slot_of_some h.slot)
  | start m =>
    rintro rfl
    rw [Cache.answer, h.main]
  | _ => trivial

/-- While the cache is not cleared, it keeps what it has for a name, and tells every task so. -/
theorem of_course {standing : Nat → Standing} (h : hall.Course sharing log hall')
    (harranged : Arranged hall standing) (hclear : ∀ event ∈ log, event.call ≠ .inr .clear)
    (hhas : hall.state.Has name n template) :
    (∃ standing', Arranged hall' standing') ∧ hall'.state.Has name n template ∧
      ∀ {i : Nat} {request : service.Request} {m}, hall.tasks[i]? = some ⟨request, m⟩ →
        ∃ rest, hall'.tasks[i]? = some ⟨request, rest⟩ ∧
          m.Reaches (telling name n template) () rest () := by
  induction h with
  | start => exact ⟨⟨standing, harranged⟩, hhas, fun {_ _ _} hi => ⟨_, hi, .start⟩⟩
  | @step log events between hall' before hstep ih =>
    obtain ⟨⟨standing', harranged'⟩, hhas', hreaches⟩ :=
      ih fun event hevent => hclear event (List.mem_append_left _ hevent)
    have hquiet : ∀ event ∈ events, event.call ≠ .inr .clear :=
      fun event hevent => hclear event (List.mem_append_right _ hevent)
    refine ⟨exists_arranged_of_step hstep harranged', has_of_step hstep harranged' hquiet hhas',
      fun {i _ _} hi => ?_⟩
    obtain ⟨rest, hrest, hm⟩ := hreaches hi
    have hlt := (List.getElem?_eq_some_iff.1 hrest).1
    cases hstep with
    | enter request => exact ⟨rest, by rw [List.getElem?_append_left hlt, hrest], hm⟩
    | @answer j request' call next reply cache' htask hanswer =>
      by_cases hij : j = i
      · subst hij
        rw [hrest] at htask
        cases htask
        refine ⟨next reply, List.getElem?_set_self hlt, hm.answered ?_⟩
        rcases call with call | call
        · trivial
        · have htells := tells_answer hhas' call
          rwa [hanswer.2] at htells
      · exact ⟨rest, by rw [List.getElem?_set_ne hij, hrest], hm⟩

end

end Engine

/-- A rendering of a template with data may name a template. -/
def MayName (template : Template) (data : Json) (name : String) : Prop :=
  (Template.render template data).MayAsk name

namespace Engine

/-- Nothing is read but templates that the rendering may name, and nothing is waited for. -/
def Renders (root : Path) (n : Nat) (mayName : String → Prop) : engine.Call → Unit → Prop
  | .inl call, _ =>
    ∃ name, mayName name ∧ Name.isLoadable name = true ∧ call = .read (Name.loadedFile root name)
  | .inr (.start m), _ => m = n
  | .inr (.fill _ _), _ => False
  | .inr (.abandon _), _ => False
  | .inr (.discard _ _), _ => False
  | .inr _, _ => True

section

variable {root : Path} {name asked : String} {n : Nat} {main : Template}
  {mayName : String → Prop}

theorem follows_told (call : Cache.Call) {final : Cache.Reply call → Unit → Prop}
    (h : Renders root n mayName (.inr call) ())
    (hfinal : ∀ reply, Tells asked n main call reply → final reply ()) :
    (ask call).Follows (telling asked n main) (Renders root n mayName) final () :=
  .right (.call h fun reply _ htells => hfinal reply htells)

theorem follows_obtainNamed {cell : Nat} (hname : mayName name) :
    (obtainNamed root cell name).Follows (telling asked n main) (Renders root n mayName)
      (fun _ _ => True) () := by
  have hask (call : Cache.Call) (h : Renders root n mayName (.inr call) ()) :
      (ask call).Follows (telling asked n main) (Renders root n mayName) (fun _ _ => True) () :=
    follows_told call h fun _ _ => trivial
  refine (hask (.find cell name) trivial).bind fun found? _ _ => ?_
  cases found? with
  | some template => exact .pure trivial
  | none =>
    have hread : (ofMachine (readNamed root name)).Follows (telling asked n main)
        (Renders root n mayName) (fun _ t => t = ()) () := by
      refine .left (.of_asks asks_readNamed fun call hcall => ?_)
      exact ⟨⟨name, hname, hcall⟩, fun _ _ _ => rfl⟩
    refine hread.bind fun result _ _ => ?_
    cases result with
    | ok template => exact (hask (.add cell template) trivial).bind fun _ _ _ => .pure trivial
    | error fault => exact .pure trivial

theorem follows_interpret {α : Type} {m : Script templates α} {cell : Nat} :
    (m.interpret (obtainNamed root cell)).Follows (telling asked n main) (Renders root n m.MayAsk)
      (fun a _ => m.Runs (fun _ _ _ _ => True) () a ()) () :=
  (Script.Follows.interpret (P := fun _ => True) m.asks_mayAsk
    (fun _ _ hname _ => follows_obtainNamed hname) trivial).mono fun _ _ h => h.2

theorem follows_obtain : (obtain root asked).Follows (telling asked n main)
    (Renders root n mayName) (fun outcome _ => outcome = .ok (n, main)) () := by
  have hslot : (ask (.slot asked)).Follows (telling asked n main) (Renders root n mayName)
      (fun (m : Nat) _ => m = n) () :=
    follows_told (.slot asked) trivial fun _ htells => htells rfl
  have hstart : (ask (.start n)).Follows (telling asked n main) (Renders root n mayName)
      (fun (found? : Option Template) _ => found? = some main) () :=
    follows_told (.start n) rfl fun _ htells => htells rfl
  refine hslot.bind fun m _ hm => ?_
  rw [hm]
  refine hstart.bind fun found? _ hfound => ?_
  rw [hfound]
  exact .pure rfl

/-- The outcome of a rendering as that of the request for it. -/
def outcomeOf (name : String) (result : Except Fault String) : Outcome String :=
  result.mapError fun fault => .render name (.evaluation fault)

/-- What a request to render a template may end with. -/
def MayEnd (name : String) (main : Template) (data : Json) (outcome : Outcome String) : Prop :=
  isNull data = true ∧ outcome = .error (missingData name) ∨
    isNull data = false ∧
      ∃ result, (Template.render main data).Runs (fun _ _ _ _ => True) () result ()
      ∧ outcome = outcomeOf name result

section

-- Names and renderings take long to unfold.
attribute [local irreducible] Name.normalize Template.render

theorem follows_render {data : Json} (hname : Name.normalize name = .ok asked) :
    (render root name data).Follows (telling asked n main) (Renders root n (main.MayName data))
      (fun outcome _ => MayEnd asked main data outcome) () := by
  unfold render
  rw [hname]
  dsimp only
  cases hdata : isNull data with
  | true => exact .pure (.inl ⟨hdata, rfl⟩)
  | false =>
    rw [if_neg Bool.false_ne_true]
    refine follows_obtain.bind fun obtained _ hobtained => ?_
    rw [hobtained]
    refine follows_interpret.bind fun result _ hresult => ?_
    cases result with
    | ok text => exact .pure (.inr ⟨hdata, .ok text, hresult, rfl⟩)
    | error fault => exact .pure (.inr ⟨hdata, .error fault, hresult, rfl⟩)

end

end

/-- A task renders a template that the cache has: it reads no file but those of templates that the
rendering may name, it waits for nobody, and it ends as the rendering may. -/
structure RendersFrom (root : Path) (name : String) (main : Template) (data : Json) (cache : Cache)
    (rest : Script engine (Outcome String)) : Prop where
  reads : ∀ call next, rest = .ask (.inl call) next → ∃ wanted, main.MayName data wanted ∧
    Name.isLoadable wanted = true ∧ call = .read (Name.loadedFile root wanted)
  goesOn : ∀ call next, rest = .ask (.inr call) next → cache.isOpen call = true
  ends : ∀ outcome, rest = .done outcome → MayEnd name main data outcome

section

variable {hall₀ hall hall' : Hall service Cache} {log₀ log : List (Event engine)} {name : String}
  {n : Nat} {main : Template} {root : Path} {data : Json}

theorem exists_arranged (h : Hall.Course sharing ⟨default, []⟩ log hall) :
    ∃ standing, Arranged hall standing := by
  induction h with
  | start =>
    have hlinked : (default : Cache).Linked := by
      intro name n hn
      change (∅ : Std.ExtTreeMap String Nat)[name]? = some n at hn
      simp at hn
    have hnobody : ∀ (i : Nat) (t : service.Task), ([] : List service.Task)[i]? ≠ some t := by
      simp
    refine ⟨fun _ => ⟨0, none⟩, hlinked, fun i t hi => absurd hi (hnobody i t),
      fun _ => Nat.zero_le _, ?_, ?_⟩
    · rintro i n ⟨⟩
    · rintro i j n ⟨⟩
  | step _ hstep ih =>
    obtain ⟨standing, harranged⟩ := ih
    exact exists_arranged_of_step hstep harranged

theorem rendersFrom_of_follows {cache : Cache} {rest : Script engine (Outcome String)}
    (h : rest.Follows (telling name n main) (Renders root n (main.MayName data))
      (fun outcome _ => MayEnd name main data outcome) ())
    (hhas : cache.Has name n main) : RendersFrom root name main data cache rest := by
  refine ⟨?reads, ?goesOn, ?ends⟩
  case reads =>
    rintro call next rfl
    exact h.1
  case goesOn =>
    rintro call next rfl
    cases call with
    | start m =>
      obtain rfl : m = n := h.1
      have hready : (cache.cell m).isBusy = false := by
        cases hcell : cache.cell m with
        | busy =>
          have hmain := hhas.main
          rw [hcell] at hmain
          cases hmain
        | _ => rfl
      rw [Cache.isOpen, hready]
      rfl
    | _ => rfl
  case ends =>
    rintro outcome rfl
    exact h

-- Names and renderings take long to unfold.
attribute [local irreducible] Name.normalize Template.render

/-- Once the cache has a template for a name, it has it until it is cleared, and whoever asks for
the name renders that template. -/
theorem compiled_stays_available (hreached : Hall.Course sharing ⟨default, []⟩ log₀ hall₀)
    (hhas : hall₀.state.Has name n main) (hcourse : hall₀.Course sharing log hall)
    (hclear : ∀ event ∈ log, event.call ≠ .inr .clear) :
    hall.state.Has name n main ∧
      ∀ (root : Path) (asked : String) (data : Json) (i : Nat) (log' : List (Event engine))
        (hall' : Hall service Cache), Name.normalize asked = .ok name →
        hall.tasks[i]? = some (service.task (root, .render asked data)) →
        hall.Course sharing log' hall' → (∀ event ∈ log', event.call ≠ .inr .clear) →
          ∃ rest, hall'.tasks[i]? = some ⟨(root, .render asked data), rest⟩ ∧
            RendersFrom root name main data hall'.state rest := by
  obtain ⟨standing, harranged⟩ := exists_arranged hreached
  obtain ⟨⟨standing', harranged'⟩, hhas', -⟩ := of_course hcourse harranged hclear hhas
  refine ⟨hhas', fun root asked data i log' hall' hname htask hcourse' hclear' => ?_⟩
  obtain ⟨-, hhas'', hreaches⟩ := of_course hcourse' harranged' hclear' hhas'
  obtain ⟨rest, hrest, hrender⟩ := hreaches htask
  exact ⟨rest, hrest, rendersFrom_of_follows ((follows_render hname).of_reaches hrender) hhas''⟩

/-- A template that can be read may be preloaded where there is none. -/
theorem runs_preload {asked : String} {cache : Cache} {bytes : ByteArray} {text : String}
    (hname : Name.normalize asked = .ok name) (hslot : cache.slots[name]? = none)
    (htext : String.fromUTF8? bytes = some text) (hcompile : compile name text = .ok main) :
    (preload root asked).Runs sharing cache (.ok ()) (cache.opened name (.ready main [])) := by
  have hask (call : Cache.Call) {c c' : Cache} {reply : Cache.Reply call}
      (hopen : c.isOpen call = true) (hanswer : Cache.answer call c = (reply, c')) :
      (ask call).Runs sharing c reply c' :=
    Script.runs_right.2 (Script.runs_call.2 ⟨hopen, hanswer⟩)
  have hread : (ofMachine (read root name)).Runs sharing (cache.opened name .busy) (.ok main)
      (cache.opened name .busy) := by
    have hcompiles : Compiles (fun _ reply => reply = .ok bytes) (Name.file root name) name main :=
      ⟨bytes, text, rfl, htext, hcompile⟩
    refine Script.runs_left.2 ((runs_read_ok.2 hcompiles).map (P := fun _ => True)
      (f := fun _ => cache.opened name .busy) (fun _ _ _ _ _ _ => ⟨rfl, trivial⟩) trivial).1
  have hobtain : (obtain root name).Runs sharing cache (.ok (cache.cells.length, main))
      (cache.opened name (.ready main [])) := by
    have hslotted := hask (.slot name) rfl (Cache.slot_of_none hslot)
    have hstarted : (ask (.start cache.cells.length)).Runs sharing (cache.opened name .empty)
        (none : Option Template) (cache.opened name .busy) := by
      refine hask _ (by rw [Cache.isOpen, Cache.cell_opened]; rfl) ?_
      rw [Cache.answer, Cache.cell_opened, Cache.setCell_opened]
      rfl
    have hfilled : (ask (.fill cache.cells.length main)).Runs sharing (cache.opened name .busy) ()
        (cache.opened name (.ready main [])) :=
      hask _ rfl (by rw [Cache.answer, Cache.setCell_opened])
    exact Script.runs_bind.2 ⟨_, _, hslotted, Script.runs_bind.2 ⟨_, _, hstarted,
      Script.runs_bind.2 ⟨_, _, hread, Script.runs_bind.2 ⟨_, _, hfilled, rfl, rfl⟩⟩⟩⟩
  unfold preload
  rw [hname]
  exact Script.runs_bind.2 ⟨_, _, hobtain, rfl, rfl⟩

end

end Engine

namespace SelfIncluding

open Engine (sharing service RendersFrom)

theorem normalize_m : Name.normalize "m" = .ok "m" :=
  Name.normalize_eq_ok (by decide +kernel) (by decide) (by decide +kernel)

set_option maxRecDepth 100000 in
theorem exists_compiled : ∃ main, compile "m" source = .ok main := by
  have hcompiles : (compile "m" source).toOption.isSome = true := by decide +kernel
  cases h : compile "m" source with
  | ok main => exact ⟨main, rfl⟩
  | error fault =>
    rw [h] at hcompiles
    cases hcompiles

section

-- Names, renderings and compiling take long to unfold.
attribute [local irreducible] Name.normalize Template.render compile

/-- A template is preloaded, and then asked for. -/
theorem compiled_stays_available_preloaded : ∃ (main : Template) (log : List (Event engine))
    (hall : Hall service Cache), Hall.Course sharing ⟨default, []⟩ log hall ∧
      hall.state.Has "m" 0 main ∧
      ∃ rest, hall.tasks[1]? = some ⟨(root, .render "m" data), rest⟩ ∧
        RendersFrom root "m" main data hall.state rest := by
  obtain ⟨main, hcompile⟩ := exists_compiled
  have hslot : (default : Cache).slots["m"]? = none := by
    change (∅ : Std.ExtTreeMap String Nat)["m"]? = none
    simp
  let empty : Hall service Cache := ⟨default, []⟩
  let preloading : Hall service Cache :=
    { empty with tasks := empty.tasks ++ [service.task (root, .preload "m")] }
  have hpreload : (Engine.preload root "m").Runs sharing preloading.state (.ok ())
      (Cache.opened default "m" (.ready main [])) :=
    Engine.runs_preload normalize_m hslot (dif_pos source.isValidUTF8) hcompile
  have htask : preloading.tasks[0]? = some ⟨(root, .preload "m"), Engine.preload root "m"⟩ := rfl
  have hany : (Engine.preload root "m").Asks fun _ => True := .of_forall (fun _ => trivial) _
  obtain ⟨log, hpreloaded, -⟩ := Hall.Course.of_runs htask hany hpreload
  let preloaded : Hall service Cache := ⟨Cache.opened default "m" (.ready main []),
    [⟨(root, .preload "m"), .done (.ok ())⟩]⟩
  let asked : Hall service Cache :=
    { preloaded with tasks := preloaded.tasks ++ [service.task (root, .render "m" data)] }
  have henter (hall : Hall service Cache) (request : service.Request) :
      hall.Course sharing [] { hall with tasks := hall.tasks ++ [service.task request] } :=
    Hall.Course.start.step (.enter request)
  have hreached : Hall.Course sharing ⟨default, []⟩ log preloaded :=
    (henter empty (root, .preload "m")).trans hpreloaded
  have hentered : preloaded.Course sharing [] asked := henter preloaded (root, .render "m" data)
  have hhas : preloaded.state.Has "m" 0 main := by
    refine ⟨?_, rfl⟩
    change ((∅ : Std.ExtTreeMap String Nat).insert "m" 0)["m"]? = some 0
    simp
  obtain ⟨hkept, hrenders⟩ :=
    Engine.compiled_stays_available hreached hhas hentered fun _ hmem => nomatch hmem
  obtain ⟨rest, hrest⟩ :=
    hrenders root "m" data 1 [] asked normalize_m rfl .start fun _ hmem => nomatch hmem
  exact ⟨main, _, asked, hreached.trans hentered, hkept, rest, hrest⟩

end

set_option maxRecDepth 100000 in
/-- The template renders where its file is, and once the file is gone, it does not. -/
theorem own_file_is_read : 
    (runAlone (Engine.preload root "m") world default).2.2.count = 1 ∧
    (runAlone (Engine.render root "m" data) world
      (runAlone (Engine.preload root "m") world default).2.2).1.toOption = some "x" ∧
    (runAlone (Engine.render root "m" data) { world with disk := ⟨∅, []⟩ }
      (runAlone (Engine.preload root "m") world default).2.2).1.toOption = none := by
  decide +kernel

end SelfIncluding

end SchemaCodegen.Template
