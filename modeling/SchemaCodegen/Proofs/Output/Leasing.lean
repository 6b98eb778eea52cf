import Mathlib.Logic.Relation
import SchemaCodegen.Output.Lock

/-!
# The lock of one path

Who stands how to the lock of a path: `Guarded` ties the registry and the lock itself to the
callers. The lock is registered exactly while somebody leases it, all of them lease the same one,
and at most one of them holds it, even though it is created and given up on the fly. Each of the
things that callers do with the lock keeps it so.
-/

namespace SchemaCodegen.Output

/-- How a caller stands to the lock of its path. -/
inductive Standing where
  | apart
  | waiting (key : Path) (lock : Nat)
  | holding (key : Path) (lock : Nat)
deriving DecidableEq

def Standing.isLeased : Standing → Bool
  | .apart => false
  | _ => true

/-- How the callers who lease the lock stand to it, if a certain one of them holds it. -/
def Standing.ofHolder (key : Path) (lock : Nat) (holder? : Option Nat) (i : Nat) : Standing :=
  if holder? = some i then .holding key lock else .waiting key lock

section OfHolder

variable {key : Path} {m n i : Nat} {holder? : Option Nat}

theorem Standing.ofHolder_eq_holding : ofHolder key m holder? i = .holding key n ↔
    m = n ∧ holder? = some i := by
  unfold ofHolder
  split <;> simp_all

theorem Standing.ofHolder_eq_waiting : ofHolder key m holder? i = .waiting key n ↔
    m = n ∧ holder? ≠ some i := by
  unfold ofHolder
  split <;> simp_all

end OfHolder

/-- The lock of the path is that of the callers, and `holder?` is the one who holds it. -/
inductive Guarded (key : Path) (locks : Locks) (standings : List Standing) : Option Nat → Prop where
  | free (unregistered : locks.registry[key.text]? = none)
      (apart : ∀ s ∈ standings, s = .apart) : Guarded key locks standings none
  | leased {n : Nat} {holder? : Option Nat} (registered : locks.registry[key.text]? = some n)
      (lock : locks.locks[n]? = some ⟨standings.countP Standing.isLeased, holder?.isSome⟩)
      (inUse : ∃ s ∈ standings, s.isLeased = true)
      (standing : ∀ (i : Nat) s, standings[i]? = some s → s.isLeased = true →
        s = .ofHolder key n holder? i)
      (holder : ∀ i, holder? = some i → standings[i]? = some (.holding key n)) :
      Guarded key locks standings holder?

namespace Guarded

variable {key : Path} {locks : Locks} {standings : List Standing} {holder? : Option Nat}
  {i n : Nat} {s t : Standing}

theorem countP_set (hi : standings[i]? = some s) :
    (standings.set i t).countP Standing.isLeased + s.isLeased.toNat =
      standings.countP Standing.isLeased + t.isLeased.toNat := by
  obtain ⟨hlt, rfl⟩ := List.getElem?_eq_some_iff.1 hi
  have hpos : standings[i].isLeased = true → 0 < standings.countP Standing.isLeased :=
    fun h => List.countP_pos_iff.2 ⟨_, List.getElem_mem hlt, h⟩
  rw [List.countP_set hlt]
  cases hs : standings[i].isLeased with
  | false => cases ht : t.isLeased <;> simp
  | true =>
    have := hpos hs
    cases ht : t.isLeased <;> simp <;> omega

/-- A caller's standing is told by who holds the lock. -/
theorem of_isLeased (h : Guarded key locks standings holder?) (hi : standings[i]? = some s)
    (hs : s.isLeased = true) : ∃ n, locks.registry[key.text]? = some n ∧
      locks.locks[n]? = some ⟨standings.countP Standing.isLeased, holder?.isSome⟩ ∧
      s = .ofHolder key n holder? i ∧
      (∀ (j : Nat) t, standings[j]? = some t → t.isLeased = true → t = .ofHolder key n holder? j) ∧
      ∀ j, holder? = some j → standings[j]? = some (.holding key n) := by
  cases h with
  | free _ apart =>
    rw [apart s (List.mem_of_getElem? hi)] at hs
    cases hs
  | leased registered lock _ standing holder =>
    exact ⟨_, registered, lock, standing i s hi hs, standing, holder⟩

/-- A lock that nobody leases is not registered. -/
theorem unregistered (h : Guarded key locks standings holder?)
    (apart : ∀ s ∈ standings, s.isLeased = false) : locks.registry[key.text]? = none := by
  cases h with
  | free unregistered => exact unregistered
  | leased _ _ inUse =>
    obtain ⟨s, hs, hleased⟩ := inUse
    rw [apart s hs] at hleased
    cases hleased

theorem holder_iff (h : Guarded key locks standings holder?) (hi : standings[i]? = some s) :
    holder? = some i ↔ ∃ n, s = .holding key n := by
  constructor
  · intro hholder
    cases h with
    | free => cases hholder
    | leased _ _ _ _ holder =>
      rw [holder i hholder, Option.some.injEq] at hi
      exact ⟨_, hi.symm⟩
  · rintro ⟨n, rfl⟩
    obtain ⟨m, -, -, hsame, -⟩ := h.of_isLeased hi rfl
    exact (Standing.ofHolder_eq_holding.1 hsame.symm).2

/-- One caller comes to stand otherwise to the lock, which stays in use. -/
theorem set_leased {locks' : Locks} {holder?' : Option Nat} (hi : standings[i]? = some s)
    (standing : ∀ (j : Nat) u, standings[j]? = some u → u.isLeased = true →
      u = .ofHolder key n holder? j)
    (holder : ∀ j, holder? = some j → standings[j]? = some (.holding key n))
    (others : ∀ j, j ≠ i → (holder?' = some j ↔ holder? = some j))
    (itself : t.isLeased = true → t = .ofHolder key n holder?' i)
    (holds : holder?' = some i → t.isLeased = true)
    (registered : locks'.registry[key.text]? = some n)
    (lock : locks'.locks[n]? =
      some ⟨(standings.set i t).countP Standing.isLeased, holder?'.isSome⟩)
    (inUse : ∃ u ∈ standings.set i t, u.isLeased = true) :
    Guarded key locks' (standings.set i t) holder?' := by
  have hlt : i < standings.length := (List.getElem?_eq_some_iff.1 hi).1
  refine .leased registered lock inUse (fun j u hj hu => ?_) fun j hj => ?_
  · by_cases hji : j = i
    · subst hji
      rw [List.getElem?_set_self hlt, Option.some.injEq] at hj
      subst hj
      exact itself hu
    · rw [List.getElem?_set_ne (Ne.symm hji)] at hj
      rw [standing j u hj hu]
      simp only [Standing.ofHolder, others j hji]
  · by_cases hji : j = i
    · subst hji
      rw [List.getElem?_set_self hlt, itself (holds hj), Standing.ofHolder, if_pos hj]
    · rw [List.getElem?_set_ne (Ne.symm hji)]
      exact holder j ((others j hji).1 hj)

theorem lease (h : Guarded key locks standings holder?) (hi : standings[i]? = some .apart) :
    Guarded key (locks.lease key).2 (standings.set i (.waiting key (locks.lease key).1))
      holder? := by
  have hlt : i < standings.length := (List.getElem?_eq_some_iff.1 hi).1
  have hcount := countP_set (t := .waiting key (locks.lease key).1) hi
  have hwaiting : (Standing.waiting key (locks.lease key).1).isLeased = true := rfl
  have hinUse : ∃ u ∈ standings.set i (.waiting key (locks.lease key).1), u.isLeased = true :=
    ⟨_, List.mem_set hlt _, hwaiting⟩
  cases h with
  | free unregistered apart =>
    have hlease : locks.lease key = (locks.locks.length,
        ⟨locks.registry.insert key.text locks.locks.length, locks.locks ++ [⟨1, false⟩]⟩) := by
      rw [Locks.lease, unregistered]
    have hzero : standings.countP Standing.isLeased = 0 := by
      rw [List.countP_eq_zero]
      intro s hs
      rw [apart s hs]
      decide
    rw [hlease] at hcount hinUse ⊢
    refine set_leased hi (fun j u hj hu => ?_) (fun _ hj => absurd hj (by simp))
      (fun j _ => Iff.rfl) (fun _ => rfl) (fun hi => absurd hi (by simp)) (by simp) ?_ hinUse
    · rw [apart u (List.mem_of_getElem? hj)] at hu
      cases hu
    · have hone : (standings.set i (.waiting key locks.locks.length)).countP
          Standing.isLeased = 1 := by
        rw [hzero] at hcount
        exact hcount
      simp [hone]
  | @leased n holder? registered lock inUse standing holder =>
    have hlease : locks.lease key =
        (n, { locks with locks := locks.locks.modify n fun l => ⟨l.leases + 1, l.held⟩ }) := by
      rw [Locks.lease, registered]
    have hfree : holder? ≠ some i := by
      rintro rfl
      rw [holder i rfl] at hi
      cases hi
    rw [hlease] at hcount hinUse ⊢
    refine set_leased hi standing holder (fun j _ => Iff.rfl) (fun _ => ?_)
      (fun hi => absurd hi hfree) registered ?_ hinUse
    · rw [Standing.ofHolder, if_neg hfree]
    · have hone : (standings.set i (.waiting key n)).countP Standing.isLeased =
          standings.countP Standing.isLeased + 1 := hcount
      simp [lock, hone]

/-- Only a lock that nobody holds can be taken. -/
theorem hold (h : Guarded key locks standings holder?) (hi : standings[i]? = some (.waiting key n))
    (hopen : locks.isOpen (.hold n) = true) :
    holder? = none ∧
      Guarded key (locks.hold n) (standings.set i (.holding key n)) (some i) := by
  obtain ⟨m, registered, lock, hsame, standing, holder⟩ := h.of_isLeased hi rfl
  have hlt : i < standings.length := (List.getElem?_eq_some_iff.1 hi).1
  obtain rfl : m = n := (Standing.ofHolder_eq_waiting.1 hsame.symm).1
  have hnone : holder? = none := by
    rw [Locks.isOpen, Locks.lock, lock] at hopen
    simpa using hopen
  refine ⟨hnone, set_leased hi standing holder (fun j hj => ?_) (fun _ => ?_) (fun _ => rfl)
    registered ?_ ⟨_, List.mem_set hlt _, rfl⟩⟩
  · rw [hnone]
    simp [Ne.symm hj]
  · rw [Standing.ofHolder, if_pos rfl]
  · have hcount := countP_set (t := .holding key m) hi
    have hsame : (standings.set i (.holding key m)).countP Standing.isLeased =
        standings.countP Standing.isLeased := Nat.add_right_cancel hcount
    simp [Locks.hold, lock, hsame]

/-- A caller who leaves the lock gives it up if nobody else leases it. -/
theorem release (h : Guarded key locks standings holder?) (isHeld : Bool)
    (hi : standings[i]? = some (if isHeld then .holding key n else .waiting key n)) :
    (isHeld = true → holder? = some i) ∧
      Guarded key (locks.release key n isHeld) (standings.set i .apart)
        (if isHeld then none else holder?) := by
  have hleased : (if isHeld then Standing.holding key n else .waiting key n).isLeased = true := by
    cases isHeld <;> rfl
  obtain ⟨m, registered, lock, hsame, standing, holder⟩ := h.of_isLeased hi hleased
  obtain ⟨rfl, hheld⟩ : m = n ∧ (isHeld = true ↔ holder? = some i) := by
    cases isHeld with
    | true =>
      obtain ⟨hm, hholds⟩ := Standing.ofHolder_eq_holding.1 hsame.symm
      exact ⟨hm, by simp [hholds]⟩
    | false =>
      obtain ⟨hm, hwaits⟩ := Standing.ofHolder_eq_waiting.1 hsame.symm
      exact ⟨hm, by simp [hwaits]⟩
  have hcount := countP_set (t := .apart) hi
  rw [hleased] at hcount
  have hone : (standings.set i .apart).countP Standing.isLeased + 1 =
      standings.countP Standing.isLeased := hcount
  refine ⟨hheld.1, ?_⟩
  by_cases hlast : standings.countP Standing.isLeased = 1
  · have hzero : (standings.set i .apart).countP Standing.isLeased = 0 := by omega
    have hapart : ∀ s ∈ standings.set i .apart, s.isLeased = false := by
      simpa [List.countP_eq_zero] using hzero
    have hnone : (if isHeld then none else holder?) = none := by
      cases isHeld with
      | true => rfl
      | false =>
        rcases holder? with _ | j
        · rfl
        · -- Another caller who holds the lock leases it.
          have hji : i ≠ j := by
            rintro rfl
            exact absurd (hheld.2 rfl) (by decide)
          have hj := holder j rfl
          rw [← List.getElem?_set_ne hji (a := .apart)] at hj
          cases hapart _ (List.mem_of_getElem? hj)
    rw [hnone]
    refine .free ?_ fun s hs => ?_
    · simp [Locks.release, Locks.lock, lock, registered, hlast]
    · have hs' := hapart s hs
      cases s with
      | apart => rfl
      | waiting => cases hs'
      | holding => cases hs'
  · have hpos : 0 < (standings.set i .apart).countP Standing.isLeased := by omega
    refine set_leased hi standing holder (fun j hj => ?_) nofun (fun hi' => ?_) ?_ ?_
      (List.countP_pos_iff.1 hpos)
    · cases isHeld with
      | true =>
        rw [hheld.1 rfl]
        simp [Ne.symm hj]
      | false => exact Iff.rfl
    · cases isHeld with
      | true => cases hi'
      | false => exact absurd (hheld.2 hi') (by decide)
    · have hmore : standings.countP Standing.isLeased - 1 ≠ 0 := by omega
      simp [Locks.release, Locks.lock, lock, registered, hmore]
    · have hless : standings.countP Standing.isLeased - 1 =
          (standings.set i .apart).countP Standing.isLeased := by omega
      have hflag : (holder?.isSome && !isHeld) = (if isHeld then none else holder?).isSome := by
        cases isHeld <;> simp
      simp [Locks.release, lock, hless, hflag]

end Guarded

end SchemaCodegen.Output
