import SchemaCodegen.Proofs.Disk.Parents
import SchemaCodegen.Proofs.Output.Leasing

/-!
# The locks of all paths

Callers of many paths share one registry. What one of them does with the lock of its path leaves
all other locks alone (`Locks.ChangesOnly`), so each lock is guarded as if there were no other path
(`Locks.Sound`), and a path that nobody leases the lock of leaves nothing behind in the registry.
-/

namespace SchemaCodegen

/-! ## The path that a lock is registered for -/

namespace Path

variable {base base' p q : Path}

theorem text_injective : Function.Injective Path.text := by
  rintro ⟨text⟩ ⟨_⟩ rfl
  rfl

theorem components_absoluteFrom : (absoluteFrom base p).components =
    .root :: ((if p.isAbsolute then [] else base.steps) ++ p.steps).map Component.ofSegment := by
  set l := (if p.isAbsolute then [] else base.steps) ++ p.steps with hl
  have hsteps : ∀ (r : Path), ∀ s ∈ r.steps, IsSegment s ∧ (!isIdle s) = true := by
    intro r s hs
    obtain ⟨hmem, hidle⟩ := List.mem_filter.1 hs
    exact ⟨isSegment_of_mem hmem, hidle⟩
  have hall : ∀ s ∈ l, IsSegment s ∧ (!isIdle s) = true := by
    intro s hs
    rw [hl] at hs
    rcases List.mem_append.1 hs with hs | hs
    · split at hs
      · cases hs
      · exact hsteps base s hs
    · exact hsteps p s hs
  have htext : absoluteFrom base p = ⟨"" ++ "/" ++ "/".intercalate l⟩ := rfl
  have hsegments : (absoluteFrom base p).segments.filter (!isIdle ·) = l := by
    rw [htext, segments_append_slash, List.filter_append]
    by_cases hempty : l = []
    · rw [hempty]
      rfl
    · rw [segments_intercalate hempty fun s hs => (hall s hs).1,
        List.filter_eq_self.2 fun s hs => (hall s hs).2]
      rfl
  have habsolute : (absoluteFrom base p).isAbsolute = true := by
    simp [htext, isAbsolute]
  simp only [components, hsegments, habsolute, if_true]
  rfl

theorem Component.ofSegment_injective : Function.Injective Component.ofSegment := by
  intro s t h
  unfold ofSegment at h
  split at h <;> split at h <;> simp_all

/-- Paths seen from the root have the same text as soon as they have the same components. -/
theorem absoluteFrom_eq_iff : absoluteFrom base p = absoluteFrom base' q ↔
    (absoluteFrom base p).components = (absoluteFrom base' q).components := by
  constructor
  · exact congrArg components
  · intro h
    rw [components_absoluteFrom, components_absoluteFrom, List.cons.injEq] at h
    have hsteps := List.map_injective_iff.2 Component.ofSegment_injective h.2
    exact congrArg (fun l => (⟨"/" ++ "/".intercalate l⟩ : Path)) hsteps

end Path

namespace Output

/-! ## Many locks -/

namespace Standing

/-- The path whose lock is leased. -/
def key? : Standing → Option Path
  | .apart => none
  | .waiting key _ => some key
  | .holding key _ => some key

/-- A caller's standing to the lock of one path. -/
def toward (key : Path) (s : Standing) : Standing :=
  if s.key? = some key then s else .apart

variable {key : Path} {s : Standing}

theorem toward_of_key? (h : s.key? = some key) : s.toward key = s :=
  if_pos h

theorem toward_of_ne (h : s.key? ≠ some key) : s.toward key = .apart :=
  if_neg h

theorem toward_apart : apart.toward key = .apart :=
  toward_of_ne nofun

theorem isLeased_toward : (s.toward key).isLeased = true ↔ s.key? = some key := by
  by_cases hkey : s.key? = some key
  · rw [toward_of_key? hkey, iff_true_right hkey]
    cases s with
    | apart => cases hkey
    | waiting => rfl
    | holding => rfl
  · rw [toward_of_ne hkey, iff_false_right hkey]
    decide

end Standing

namespace Guarded

variable {key : Path} {locks locks' : Locks} {standings : List Standing} {holder? : Option Nat}

/-- What happens to other locks is of no account. -/
theorem congr (h : Guarded key locks standings holder?)
    (registry : locks'.registry[key.text]? = locks.registry[key.text]?)
    (lock : ∀ n, locks.registry[key.text]? = some n → n < locks.locks.length →
      locks'.locks[n]? = locks.locks[n]?) : Guarded key locks' standings holder? := by
  cases h with
  | free unregistered apart => exact .free (registry.trans unregistered) apart
  | leased registered hlock inUse standing holder =>
    have hlt := (List.getElem?_eq_some_iff.1 hlock).1
    exact .leased (registry.trans registered) ((lock _ registered hlt).trans hlock) inUse standing
      holder

/-- Nor is a caller who has not asked for the lock yet. -/
theorem concat (h : Guarded key locks standings holder?) :
    Guarded key locks (standings ++ [.apart]) holder? := by
  cases h with
  | free unregistered apart =>
    refine .free unregistered fun s hs => ?_
    rcases List.mem_append.1 hs with hs | hs
    · exact apart s hs
    · exact List.mem_singleton.1 hs
  | leased registered lock inUse standing holder =>
    obtain ⟨s, hs, hleased⟩ := inUse
    refine .leased registered ?_ ⟨s, List.mem_append_left _ hs, hleased⟩ (fun i t hi ht => ?_)
      fun i hi => ?_
    · rw [lock, List.countP_append]
      rfl
    · rw [List.getElem?_append] at hi
      split at hi
      · exact standing i t hi ht
      · rw [List.mem_singleton.1 (List.mem_of_getElem? hi)] at ht
        cases ht
    · have hmem := holder i hi
      rwa [List.getElem?_append_left (List.getElem?_eq_some_iff.1 hmem).1]

theorem lt_of_registered {n : Nat} (h : Guarded key locks standings holder?)
    (hn : locks.registry[key.text]? = some n) : n < locks.locks.length := by
  cases h with
  | free unregistered =>
    rw [unregistered] at hn
    cases hn
  | leased registered lock =>
    obtain rfl := Option.some.inj (registered.symm.trans hn)
    exact (List.getElem?_eq_some_iff.1 lock).1

end Guarded

namespace Locks

/-- Only the lock of one path has changed, or is a new one. -/
structure ChangesOnly (key : Path) (locks locks' : Locks) : Prop where
  registry : ∀ text, text ≠ key.text → locks'.registry[text]? = locks.registry[text]?
  kept : ∀ n < locks.locks.length, locks.registry[key.text]? ≠ some n →
    locks'.locks[n]? = locks.locks[n]?
  fresh : ∀ {n}, locks'.registry[key.text]? = some n →
    locks.registry[key.text]? = some n ∨ locks.locks.length ≤ n

namespace ChangesOnly

variable {key : Path} {locks : Locks} {n : Nat}

/-- A lock is changed in its place. -/
theorem modify {registry : Std.ExtTreeMap String Nat} {f : Lock → Lock}
    (registered : locks.registry[key.text]? = some n)
    (others : ∀ text, text ≠ key.text → registry[text]? = locks.registry[text]?)
    (itself : ∀ m, registry[key.text]? = some m → locks.registry[key.text]? = some m) :
    ChangesOnly key locks ⟨registry, locks.locks.modify n f⟩ := by
  refine ⟨others, fun m _ hm => List.getElem?_modify_ne _ _ ?_, fun hm => .inl (itself _ hm)⟩
  rintro rfl
  exact hm registered

theorem lease : ChangesOnly key locks (locks.lease key).2 := by
  cases hregistered : locks.registry[key.text]? with
  | some n =>
    rw [Locks.lease, hregistered]
    exact modify hregistered (fun _ _ => rfl) fun _ hm => hm
  | none =>
    rw [Locks.lease, hregistered]
    refine ⟨fun text htext => ?_, fun n hn _ => List.getElem?_append_left hn, fun hn => ?_⟩
    · simp [Std.ExtTreeMap.getElem?_insert, Ne.symm htext]
    · rw [Std.ExtTreeMap.getElem?_insert_self] at hn
      exact .inr (Option.some.inj hn).le

theorem hold (registered : locks.registry[key.text]? = some n) :
    ChangesOnly key locks (locks.hold n) :=
  modify registered (fun _ _ => rfl) fun _ hm => hm

theorem release (registered : locks.registry[key.text]? = some n) (isHeld : Bool) :
    ChangesOnly key locks (locks.release key n isHeld) := by
  refine modify registered (fun text htext => ?_) fun m hm => ?_
  · split
    · simp [Std.ExtTreeMap.getElem?_erase, Ne.symm htext]
    · rfl
  · split at hm
    · simp at hm
    · exact hm

end ChangesOnly

/-- The lock of every path is guarded, and no lock is that of two paths. -/
structure Sound (locks : Locks) (standings : List Standing) : Prop where
  guarded : ∀ key : Path, ∃ holder?, Guarded key locks (standings.map (Standing.toward key)) holder?
  distinct : ∀ {text text' : String} {n : Nat}, locks.registry[text]? = some n →
    locks.registry[text']? = some n → text = text'

namespace Sound

variable {locks locks' : Locks} {standings : List Standing} {key : Path} {i n : Nat}
  {s t : Standing}

theorem nil : Sound default [] := by
  refine ⟨fun key => ⟨none, .free Std.ExtTreeMap.getElem?_empty fun _ hs => nomatch hs⟩, ?_⟩
  intro text text' n hn
  rw [show (default : Locks).registry = ∅ from rfl, Std.ExtTreeMap.getElem?_empty] at hn
  cases hn

theorem concat (h : Sound locks standings) : Sound locks (standings ++ [.apart]) := by
  refine ⟨fun key => ?_, h.distinct⟩
  obtain ⟨holder?, hguarded⟩ := h.guarded key
  rw [List.map_append, List.map_singleton, Standing.toward_apart]
  exact ⟨holder?, hguarded.concat⟩

theorem lt_of_registered {text : String} (h : Sound locks standings)
    (hn : locks.registry[text]? = some n) : n < locks.locks.length := by
  obtain ⟨_, hguarded⟩ := h.guarded ⟨text⟩
  exact hguarded.lt_of_registered hn

/-- A caller comes to stand otherwise to the lock of one path. -/
theorem set (h : Sound locks standings) (hi : standings[i]? = some s)
    (hs : ∀ other, s.key? = some other → other = key)
    (ht : ∀ other, t.key? = some other → other = key)
    (changes : ChangesOnly key locks locks')
    (guarded : ∃ holder?,
      Guarded key locks' ((standings.map (Standing.toward key)).set i (t.toward key)) holder?) :
    Sound locks' (standings.set i t) := by
  constructor
  case guarded =>
    intro other
    rw [List.map_set]
    by_cases hother : other = key
    · rw [hother]
      exact guarded
    · obtain ⟨holder?, hbefore⟩ := h.guarded other
      have hsame : (standings.map (Standing.toward other)).set i (t.toward other) =
          standings.map (Standing.toward other) := by
        obtain ⟨hlt, rfl⟩ := List.getElem?_eq_some_iff.1 hi
        rw [Standing.toward_of_ne fun hkey => hother (ht other hkey),
          ← Standing.toward_of_ne fun hkey => hother (hs other hkey), ← List.map_set,
          List.set_getElem_self]
      have htext : other.text ≠ key.text := fun htext => hother (Path.text_injective htext)
      rw [hsame]
      refine ⟨holder?, hbefore.congr (changes.registry _ htext) fun n hn hlt => ?_⟩
      exact changes.kept n hlt fun hkey => htext (h.distinct hn hkey)
  case distinct =>
    -- A lock that is registered for another path is neither a new one nor the one of this path.
    have hnew : ∀ {text n}, text ≠ key.text → locks'.registry[key.text]? = some n →
        locks'.registry[text]? ≠ some n := by
      intro text n htext hn hother
      rw [changes.registry text htext] at hother
      rcases changes.fresh hn with hold | hfresh
      · exact htext (h.distinct hother hold)
      · exact absurd (h.lt_of_registered hother) (Nat.not_lt.2 hfresh)
    intro text text' n hn hn'
    by_cases htext : text = key.text
    · subst htext
      by_contra hne
      exact hnew (Ne.symm hne) hn hn'
    · by_cases htext' : text' = key.text
      · subst htext'
        exact absurd hn (hnew htext hn')
      · rw [changes.registry _ htext] at hn
        rw [changes.registry _ htext'] at hn'
        exact h.distinct hn hn'

theorem getElem?_toward (hi : standings[i]? = some s) :
    (standings.map (Standing.toward key))[i]? = some (s.toward key) := by
  rw [List.getElem?_map, hi]
  rfl

/-- Who leases the lock of a path leases the one that is registered for it. -/
theorem registered (h : Sound locks standings) (hi : standings[i]? = some s)
    (hs : s = .waiting key n ∨ s = .holding key n) : locks.registry[key.text]? = some n := by
  obtain ⟨holder?, hguarded⟩ := h.guarded key
  have hkey : s.key? = some key := by
    rcases hs with rfl | rfl <;> rfl
  have hi' : (standings.map (Standing.toward key))[i]? = some s := by
    rw [getElem?_toward hi, Standing.toward_of_key? hkey]
  have hleased : s.isLeased = true := by
    rcases hs with rfl | rfl <;> rfl
  obtain ⟨m, hm, -, hsame, -⟩ := hguarded.of_isLeased hi' hleased
  rcases hs with rfl | rfl
  · exact (Standing.ofHolder_eq_waiting.1 hsame.symm).1 ▸ hm
  · exact (Standing.ofHolder_eq_holding.1 hsame.symm).1 ▸ hm

theorem lease (h : Sound locks standings) (hi : standings[i]? = some .apart) :
    Sound (locks.lease key).2 (standings.set i (.waiting key (locks.lease key).1)) := by
  obtain ⟨holder?, hguarded⟩ := h.guarded key
  refine h.set hi nofun (fun _ hkey => (Option.some.inj hkey).symm) .lease ⟨holder?, ?_⟩
  rw [Standing.toward_of_key? rfl]
  exact hguarded.lease (getElem?_toward hi)

theorem hold (h : Sound locks standings) (hi : standings[i]? = some (.waiting key n))
    (isOpen : locks.isOpen (.hold n) = true) :
    Sound (locks.hold n) (standings.set i (.holding key n)) := by
  have hregistered := h.registered hi (.inl rfl)
  obtain ⟨holder?, hguarded⟩ := h.guarded key
  have hi' : (standings.map (Standing.toward key))[i]? = some (.waiting key n) := by
    rw [getElem?_toward hi, Standing.toward_of_key? rfl]
  refine h.set hi (fun _ hkey => (Option.some.inj hkey).symm)
    (fun _ hkey => (Option.some.inj hkey).symm) (.hold hregistered) ⟨some i, ?_⟩
  rw [Standing.toward_of_key? rfl]
  exact (hguarded.hold hi' isOpen).2

theorem release (h : Sound locks standings) (isHeld : Bool)
    (hi : standings[i]? = some (if isHeld then .holding key n else .waiting key n)) :
    Sound (locks.release key n isHeld) (standings.set i .apart) := by
  have hkey : (if isHeld then Standing.holding key n else .waiting key n).key? = some key := by
    cases isHeld <;> rfl
  have hregistered : locks.registry[key.text]? = some n := by
    refine h.registered hi ?_
    cases isHeld
    · exact .inl rfl
    · exact .inr rfl
  obtain ⟨holder?, hguarded⟩ := h.guarded key
  have hi' : (standings.map (Standing.toward key))[i]? =
      some (if isHeld then .holding key n else .waiting key n) := by
    rw [getElem?_toward hi, Standing.toward_of_key? hkey]
  refine h.set hi (fun _ hother => ?_) nofun (.release hregistered isHeld)
    ⟨if isHeld then none else holder?, ?_⟩
  · exact Option.some.inj (hother.symm.trans hkey)
  · exact (hguarded.release isHeld hi').2

/-- At most one of those who lease the lock of a path holds it. -/
theorem exclusive (h : Sound locks standings) {j m : Nat}
    (hi : standings[i]? = some (.holding key n)) (hj : standings[j]? = some (.holding key m)) :
    i = j := by
  obtain ⟨holder?, hguarded⟩ := h.guarded key
  have hholds : ∀ {k l : Nat}, standings[k]? = some (.holding key l) → holder? = some k :=
    fun hk => (hguarded.holder_iff (getElem?_toward hk)).2 ⟨_, Standing.toward_of_key? rfl⟩
  exact Option.some.inj ((hholds hi).symm.trans (hholds hj))

/-- A lock is registered exactly as long as somebody leases it. -/
theorem mem_registry_iff (h : Sound locks standings) {text : String} :
    text ∈ locks.registry ↔ ∃ s ∈ standings, s.key? = some ⟨text⟩ := by
  rw [Std.ExtTreeMap.mem_iff_isSome_getElem?, Option.isSome_iff_exists]
  constructor
  · rintro ⟨n, hn⟩
    obtain ⟨holder?, hguarded⟩ := h.guarded ⟨text⟩
    cases hguarded with
    | free unregistered =>
      rw [unregistered] at hn
      cases hn
    | leased _ _ inUse =>
      obtain ⟨_, hmem, hleased⟩ := inUse
      obtain ⟨s, hs, rfl⟩ := List.mem_map.1 hmem
      exact ⟨s, hs, Standing.isLeased_toward.1 hleased⟩
  · rintro ⟨s, hs, hkey⟩
    obtain ⟨i, hi⟩ := List.getElem?_of_mem hs
    cases s with
    | apart => cases hkey
    | waiting key n =>
      cases hkey
      exact ⟨n, h.registered hi (.inl rfl)⟩
    | holding key n =>
      cases hkey
      exact ⟨n, h.registered hi (.inr rfl)⟩

/-- A registered lock counts those who lease it, and knows whether one of them holds it. -/
theorem lock_eq (h : Sound locks standings) (hn : locks.registry[key.text]? = some n) :
    (locks.lock n).leases = standings.countP (fun s => s.key? = some key) ∧
      ((locks.lock n).held = true ↔ .holding key n ∈ standings) := by
  obtain ⟨holder?, hguarded⟩ := h.guarded key
  have hholds : .holding key n ∈ standings → holder?.isSome = true := by
    intro hmem
    obtain ⟨i, hi⟩ := List.getElem?_of_mem hmem
    have hholder := (hguarded.holder_iff (getElem?_toward hi)).2 ⟨n, Standing.toward_of_key? rfl⟩
    rw [hholder]
    rfl
  cases hguarded with
  | free unregistered =>
    rw [unregistered] at hn
    cases hn
  | leased registered lock inUse standing holder =>
    obtain rfl := Option.some.inj (registered.symm.trans hn)
    rw [Locks.lock, lock, Option.getD_some, List.countP_map]
    refine ⟨List.countP_congr fun s _ => ?_, fun hheld => ?_, hholds⟩
    · simpa using Standing.isLeased_toward
    · obtain ⟨i, hi⟩ := Option.isSome_iff_exists.1 hheld
      obtain ⟨s, hs, htoward⟩ := List.mem_map.1 (List.mem_of_getElem? (holder i hi))
      have hkey : s.key? = some key := Standing.isLeased_toward.1 (htoward ▸ rfl)
      rw [Standing.toward_of_key? hkey] at htoward
      exact htoward ▸ hs

theorem registry_eq_empty (h : Sound locks standings) (apart : ∀ s ∈ standings, s = .apart) :
    locks.registry = ∅ := by
  refine Std.ExtTreeMap.eq_empty_iff_forall_not_mem.2 fun text hmem => ?_
  obtain ⟨s, hs, hkey⟩ := h.mem_registry_iff.1 hmem
  rw [apart s hs] at hkey
  cases hkey

end Sound

end Locks

end Output

end SchemaCodegen
