import Mathlib.Algebra.Group.Nat.Defs
import Mathlib.Data.List.FinRange
import Mathlib.Data.List.Perm.Subperm
import Mathlib.Data.Nat.Find
import Std.Data.String.ToNat
import SchemaCodegen.Proofs.Disk.Neighbours
import SchemaCodegen.Proofs.Output.Protection

/-!
# A free name for a backup

The names that a backup may get are tried one after the other: the plain one, one with a time stamp,
and then the stamped one with the numbers from 1 on. They lie in one directory under different names
(`backupName_injective`), so those that are taken are as many entries of the disk
(`Disk.exists_not_taken`), and the search, which has no other end, comes to one that is free
(`freeBackup_comesTo`). What it finds is the first that is free (`exists_freeBackup`).
-/

namespace SchemaCodegen

/-! ## Paths that differ in what is behind them -/

namespace Path

variable {p : Path} {front : List String} {last suffix suffix' : String}

/-- Text that makes a file name of what it is put behind with a point, whatever that is. -/
structure IsSuffix (s : String) : Prop where
  segment : IsSegment s
  long : 2 ≤ s.length

theorem isSegment_last (hp : p.segments = front ++ [last]) : IsSegment last := by
  have hmem : last ∈ p.segments := by simp [hp]
  exact isSegment_of_mem hmem

theorem IsSuffix.isFileName (h : IsSuffix suffix) (hlast : IsSegment last) :
    IsFileName (last ++ "." ++ suffix) := by
  have hlong := h.long
  have hpoint : ".".length = 1 := rfl
  have hother : ∀ s : String, s.length ≤ 2 → last ++ "." ++ suffix ≠ s := by
    rintro s hs rfl
    simp only [String.length_append] at hs
    omega
  refine ⟨?_, ?_, hother ".." (by decide)⟩
  · have hsegment := h.segment
    unfold IsSegment at *
    simp [hlast, hsegment]
  · simp [isIdle, hother "" (by decide), hother "." (by decide)]

theorem isAbsolute_withSuffix (p : Path) (suffix : String) :
    (p.withSuffix suffix).isAbsolute = p.isAbsolute := by
  cases htext : p.text.toList with
  | nil => simp [isAbsolute, withSuffix, htext]
  | cons c cs => simp [isAbsolute, withSuffix, htext]

theorem steps_withSuffix (hp : p.segments = front ++ [last]) (h : IsSuffix suffix) :
    (p.withSuffix suffix).steps = front.filter (!isIdle ·) ++ [last ++ "." ++ suffix] := by
  have hname := h.isFileName (isSegment_last hp)
  rw [steps, segments_withSuffix hp h.segment, List.filter_append,
    List.filter_cons_of_pos (by simp [hname.filled]), List.filter_nil]

/-- Paths that differ in their suffixes lie in one directory. -/
theorem siblings_withSuffix (hp : p.segments = front ++ [last]) (h : IsSuffix suffix)
    (h' : IsSuffix suffix') :
    Siblings (p.withSuffix suffix) (p.withSuffix suffix') (front.filter (!isIdle ·))
      (last ++ "." ++ suffix) (last ++ "." ++ suffix') where
  steps := steps_withSuffix hp h
  steps' := steps_withSuffix hp h'
  isAbsolute := by rw [isAbsolute_withSuffix, isAbsolute_withSuffix]

end Path

namespace Disk

variable {d : Disk} {p : Path} {name suffix suffix' : String} {x : Location}

/-- What is at a path that ends in a name is an entry of that name. -/
theorem exists_names_of_probe (hlast : p.segments.getLast? = some name)
    (hname : Path.IsFileName name) (h : d.probe p = .ok true) :
    ∃ x, d.Names p x ∧ d.entry? x ≠ none := by
  obtain ⟨found, hstat⟩ : ∃ found, d.stat p = .ok found := by
    rw [probe] at h
    split at h
    · next found hstat => exact ⟨found, hstat⟩
    · cases h
    · cases h
  obtain ⟨target, hlocate, hrest⟩ := exists_of_bind_eq_ok hstat
  obtain ⟨found?, hfind, hfound⟩ := exists_of_bind_eq_ok hrest
  obtain ⟨hfilled, hhere⟩ : name ≠ "" ∧ name ≠ "." := by simpa [Path.isIdle] using hname.filled
  have hup := hname.inside
  -- The last segment is what is walked to, and no slash is behind it.
  obtain ⟨directory, rfl⟩ : ∃ directory, target = ⟨directory, some name, false⟩ := by
    rw [locate_eq] at hlocate
    split at hlocate
    · cases hlocate
    · rw [walk, Output.getLast?_filter_of_pos hlast (by simpa using hfilled)] at hlocate
      obtain ⟨directory, -, hend⟩ := exists_of_bind_eq_ok hlocate
      rw [if_neg (by simp [hhere, hup]), hlast] at hend
      cases hend
      exact ⟨directory, by simp [hfilled]⟩
  obtain ⟨hlong, rfl⟩ := find_some_iff.1 hfind
  refine ⟨directory ++ [name], ⟨directory, name, hlocate, hlong, rfl⟩, fun hnone => ?_⟩
  rw [hnone] at hfound
  cases hfound

theorem exists_names_withSuffix (h : Path.IsSuffix suffix)
    (hprobe : d.probe (p.withSuffix suffix) = .ok true) :
    ∃ x, d.Names (p.withSuffix suffix) x ∧ d.entry? x ≠ none := by
  obtain ⟨front, last, hp⟩ := Path.exists_segments_eq p
  have hlast : (p.withSuffix suffix).segments.getLast? = some (last ++ "." ++ suffix) := by
    rw [Path.segments_withSuffix hp h.segment, List.getLast?_concat]
  exact exists_names_of_probe hlast (h.isFileName (Path.isSegment_last hp)) hprobe

/-- Different suffixes lead to different places. -/
theorem eq_of_names_withSuffix (h : Path.IsSuffix suffix) (h' : Path.IsSuffix suffix')
    (hx : d.Names (p.withSuffix suffix) x) (hx' : d.Names (p.withSuffix suffix') x) :
    suffix = suffix' := by
  obtain ⟨front, last, hp⟩ := Path.exists_segments_eq p
  have hname := (hx.eq_iff_of_siblings hx' (Path.siblings_withSuffix hp h h')).1 rfl
  exact (String.append_right_inj _).1 hname

/-- Different places with something in them are different entries. -/
theorem length_le_size {l : List Location} (hnodup : l.Nodup)
    (h : ∀ x ∈ l, x ≠ [] ∧ d.entry? x ≠ none) : l.length ≤ d.entries.size := by
  have hkeys : ∀ x ∈ l, x ∈ d.entries.keys := by
    intro x hx
    obtain ⟨hne, hentry⟩ := h x hx
    unfold entry? at hentry
    rw [if_neg (by simpa using hne)] at hentry
    rw [Std.ExtTreeMap.mem_keys, ← Std.ExtTreeMap.isSome_getElem?_iff_mem]
    exact Option.isSome_iff_ne_none.2 hentry
  rw [← Std.ExtTreeMap.length_keys]
  exact (hnodup.subperm hkeys).length_le

/-- Not all of more paths than there are entries are taken, if they differ in their suffixes. -/
theorem exists_not_taken (d : Disk) (p : Path) {suffixes : Nat → String}
    (hinjective : Function.Injective suffixes) (hsuffix : ∀ i, Path.IsSuffix (suffixes i)) :
    ∃ i ≤ d.entries.size, d.probe (p.withSuffix (suffixes i)) ≠ .ok true := by
  by_contra hnone
  have htaken : ∀ i : Fin (d.entries.size + 1),
      ∃ x, d.Names (p.withSuffix (suffixes i)) x ∧ d.entry? x ≠ none := by
    intro i
    refine exists_names_withSuffix (hsuffix i) ?_
    by_contra hfree
    exact hnone ⟨i, Nat.le_of_lt_succ i.isLt, hfree⟩
  choose place hnames hentry using htaken
  have hplace : Function.Injective place := by
    intro i j heq
    have hi := hnames i
    rw [heq] at hi
    exact Fin.ext (hinjective (eq_of_names_withSuffix (hsuffix i) (hsuffix j) hi (hnames j)))
  have hsize : (List.ofFn place).length ≤ d.entries.size := by
    refine length_le_size (List.nodup_ofFn.2 hplace) fun x hx => ?_
    obtain ⟨i, rfl⟩ := List.mem_ofFn.1 hx
    exact ⟨(hnames i).ne_nil, hentry i⟩
  rw [List.length_ofFn] at hsize
  omega

end Disk

/-! ## Searching -/

/-- The path that is looked at for whether something is there. -/
def Machine.Call.probed? : Machine.Call → Option Path
  | .probe path => some path
  | _ => none

namespace World

variable {α : Type} {w : World} {p : Path} {found : Bool}

/-- The paths that a job probes on a machine without faults, in order. -/
def probed (w : World) (job : Job α) : List Path :=
  (Script.questions (I := machine) answer job.run w).filterMap Machine.Call.probed?

theorem mem_probed_probe (w : World) (p : Path) (f : Bool → Job α) :
    p ∈ w.probed (Job.probe p >>= f) :=
  List.mem_cons_self

theorem probed_probe (h : w.disk.probe p = .ok found) (f : Bool → Job α) :
    w.probed (Job.probe p >>= f) = p :: w.probed (f found) := by
  have hreply : (answer (.probe p) w).1 = .ok found := h
  have hask := Script.questions_ask (I := machine) answer (.probe p)
    (fun reply => ExceptT.bindCont f (Disk.outcome reply)) w
  rw [hreply] at hask
  exact congrArg (List.filterMap Machine.Call.probed?) hask

theorem run_probe (h : w.disk.probe p = .ok found) (f : Bool → Job α) :
    run (Job.probe p >>= f) w = run (f found) w := by
  have hreply : (answer (.probe p) w).1 = .ok found := h
  have hask := Script.run_ask (I := machine) answer (.probe p)
    (fun reply => ExceptT.bindCont f (Disk.outcome reply)) w
  rw [hreply] at hask
  exact hask

theorem probed_clock (w : World) (f : Instant → Job α) :
    w.probed (Job.clock >>= f) = { w with now := tick w.now }.probed (f w.now) := by
  have hask := congrArg (List.filterMap Machine.Call.probed?)
    (Script.questions_ask (I := machine) answer .clock (fun now => (f now).run) w)
  exact hask

theorem run_clock (w : World) (f : Instant → Job α) :
    run (Job.clock >>= f) w = run (f w.now) { w with now := tick w.now } := by
  have hask := Script.run_ask (I := machine) answer .clock (fun now => (f now).run) w
  exact hask

end World

namespace Output

section Search

variable {path p : Path} {stamp : String} {w : World} {candidates : Nat → Path} {i : Nat}

/-- A search for the first free candidate probes a certain one, and ends with it if it is free. -/
structure ComesTo (search : Job Path) (w : World) (candidates : Nat → Path) (i : Nat) : Prop where
  probes : candidates i ∈ w.probed search
  finds : w.disk.probe (candidates i) = .ok false →
    (World.run search w).1 = .ok (candidates i) ∧ (World.run search w).2.disk = w.disk ∧
      w.probed search = (List.range (i + 1)).map candidates

namespace ComesTo

theorem first {f : Bool → Job Path} (hfirst : candidates 0 = p) (hfree : f false = pure p) :
    ComesTo (Job.probe p >>= f) w candidates 0 where
  probes := by
    rw [hfirst]
    exact World.mem_probed_probe w p f
  finds h := by
    rw [hfirst] at h
    rw [World.run_probe h, World.probed_probe h, hfree, List.range_one, List.map_singleton, hfirst]
    exact ⟨rfl, rfl, rfl⟩

/-- A candidate that is taken is passed over. -/
theorem next {f : Bool → Job Path} (hfirst : candidates 0 = p)
    (htaken : w.disk.probe p = .ok true)
    (h : ComesTo (f true) w (fun j => candidates (j + 1)) i) :
    ComesTo (Job.probe p >>= f) w candidates (i + 1) where
  probes := by
    rw [World.probed_probe htaken]
    exact List.mem_cons_of_mem _ h.probes
  finds hfree := by
    obtain ⟨hresult, hdisk, hprobed⟩ := h.finds hfree
    have hnames : (List.range (i + 1 + 1)).map candidates =
        p :: (List.range (i + 1)).map fun j => candidates (j + 1) := by
      rw [List.range_succ_eq_map, List.map_cons, List.map_map, hfirst]
      rfl
    rw [World.run_probe htaken, World.probed_probe htaken, hprobed, hnames]
    exact ⟨hresult, hdisk, rfl⟩

theorem clock {f : Instant → Job Path}
    (h : ComesTo (f w.now) { w with now := World.tick w.now } candidates i) :
    ComesTo (Job.clock >>= f) w candidates i where
  probes := by
    rw [World.probed_clock]
    exact h.probes
  finds hfree := by
    rw [World.probed_clock, World.run_clock]
    exact h.finds hfree

end ComesTo

/-- What is put behind a path and a point for a backup, in the order in which it is tried. -/
def backupSuffix (stamp : String) : Nat → String
  | 0 => "bak"
  | 1 => stamp ++ ".bak"
  | n + 2 => stamp ++ "_" ++ toString (n + 1) ++ ".bak"

/-- The names that a backup may get, in the order in which they are tried. -/
def backupName (path : Path) (stamp : String) (i : Nat) : Path :=
  path.withSuffix (backupSuffix stamp i)

theorem freeNumberedBackup_comesTo {tries n : Nat} (hi : i < tries)
    (htaken : ∀ j < i, w.disk.probe (numberedBackup path stamp (n + j)) = .ok true) :
    ComesTo (freeNumberedBackup path stamp tries n) w
      (fun j => numberedBackup path stamp (n + j)) i := by
  induction i generalizing tries n with
  | zero =>
    obtain ⟨tries, rfl⟩ := Nat.exists_eq_succ_of_ne_zero (Nat.ne_of_gt hi)
    exact .first rfl rfl
  | succ i ih =>
    obtain ⟨tries, rfl⟩ := Nat.exists_eq_succ_of_ne_zero (Nat.ne_of_gt (Nat.zero_lt_of_lt hi))
    have hshift : ∀ j, n + 1 + j = n + (j + 1) := by omega
    have hrest : ComesTo (freeNumberedBackup path stamp tries (n + 1)) w
        (fun j => numberedBackup path stamp (n + 1 + j)) i := by
      refine ih (Nat.lt_of_succ_lt_succ hi) fun j hj => ?_
      rw [hshift]
      exact htaken (j + 1) (Nat.succ_lt_succ hj)
    simp only [hshift] at hrest
    exact .next rfl (htaken 0 (Nat.succ_pos i)) hrest

theorem freeBackup_eq (path : Path) : freeBackup path = (do
    if !(← Job.probe (plainBackup path)) then return plainBackup path
    else
      let now ← Job.clock
      if !(← Job.probe (stampedBackup path now.stamp)) then return stampedBackup path now.stamp
      else freeNumberedBackup path now.stamp backupLimit 1) := rfl

/-- The search passes over the names that are taken, and there are more names to it than numbers. -/
theorem freeBackup_comesTo (hi : i ≤ backupLimit + 1)
    (htaken : ∀ j < i, w.disk.probe (backupName path w.now.stamp j) = .ok true) :
    ComesTo (freeBackup path) w (backupName path w.now.stamp) i := by
  rw [freeBackup_eq]
  rcases i with _ | _ | i
  · exact .first rfl rfl
  · refine .next rfl (htaken 0 (by omega)) ?_
    rw [if_neg (by decide)]
    exact .clock (.first rfl rfl)
  · have hnumbered : ComesTo (freeNumberedBackup path w.now.stamp backupLimit 1)
        { w with now := World.tick w.now }
        (fun j => numberedBackup path w.now.stamp (1 + j)) i := by
      refine freeNumberedBackup_comesTo (by omega) fun j hj => ?_
      rw [Nat.add_comm]
      exact htaken (j + 2) (by omega)
    simp only [Nat.add_comm 1] at hnumbered
    refine .next rfl (htaken 0 (by omega)) ?_
    rw [if_neg (by decide)]
    refine .clock (.next rfl (htaken 1 (by omega)) ?_)
    rw [if_neg (by decide)]
    exact hnumbered

end Search

/-! ## The names -/

section Names

variable {path : Path} {stamp : String}

theorem isNeutral_backupSuffix (h : IsNeutral stamp) (i : Nat) :
    IsNeutral (backupSuffix stamp i) := by
  rcases i with _ | _ | n
  · exact (by decide : IsNeutral "bak")
  · exact h.append (by decide)
  · have hstamp : IsNeutral (stamp ++ "_") := h.append (by decide)
    exact (hstamp.append (isNeutral_repr (n + 1))).append (by decide)

theorem two_le_length_backupSuffix (stamp : String) (i : Nat) :
    2 ≤ (backupSuffix stamp i).length := by
  have hend : ".bak".length = 4 := rfl
  rcases i with _ | _ | n
  · exact (by decide : 2 ≤ "bak".length)
  · simp only [backupSuffix, String.length_append]
    omega
  · simp only [backupSuffix, String.length_append]
    omega

theorem isSuffix_backupSuffix (t : Instant) (i : Nat) : Path.IsSuffix (backupSuffix t.stamp i) :=
  ⟨(isNeutral_backupSuffix (isNeutral_stamp t) i).isSegment, two_le_length_backupSuffix t.stamp i⟩

theorem exists_text_backupName (path : Path) (stamp : String) (i : Nat) :
    ∃ stem, (backupName path stamp i).text = stem ++ ".bak" := by
  rcases i with _ | _ | n
  · exact ⟨path.text, by rw [backupName, Path.withSuffix, String.append_assoc]; rfl⟩
  · exact ⟨path.text ++ "." ++ stamp, (String.append_assoc ..).symm⟩
  · exact ⟨path.text ++ "." ++ (stamp ++ "_" ++ toString (n + 1)), (String.append_assoc ..).symm⟩

/-- The stamp makes a name longer, a number makes it longer again, and numbers differ. -/
theorem backupSuffix_injective (stamp : String) : Function.Injective (backupSuffix stamp) := by
  intro i j heq
  have hbak : "bak".length = 3 := rfl
  have hend : ".bak".length = 4 := rfl
  have hline : "_".length = 1 := rfl
  have hlength := congrArg String.length heq
  rcases i with _ | _ | m <;> rcases j with _ | _ | n <;>
    simp only [backupSuffix, String.length_append] at hlength
  · rfl
  · omega
  · omega
  · omega
  · rfl
  · omega
  · omega
  · omega
  · have hnumber : (m + 1).repr = (n + 1).repr :=
      (String.append_right_inj _).1 ((String.append_left_inj _).1 heq)
    rw [Nat.succ.inj (Nat.repr_inj.1 hnumber)]

theorem backupName_injective (path : Path) (stamp : String) :
    Function.Injective (backupName path stamp) := by
  intro i j heq
  have htext : path.text ++ "." ++ backupSuffix stamp i =
      path.text ++ "." ++ backupSuffix stamp j := congrArg Path.text heq
  exact backupSuffix_injective stamp ((String.append_right_inj _).1 htext)

end Names

/-! ## What is found -/

/-- A backup is the first of the names in their order that is free. -/
structure IsFirstFree (d : Disk) (path : Path) (stamp : String) (backup : Path) : Prop where
  behind : ∃ suffix, backup.text = path.text ++ "." ++ suffix
  ending : ∃ stem, backup.text = stem ++ ".bak"
  free : d.probe backup = .ok false
  unused : d.Unused backup
  plain : backup = plainBackup path ↔ d.probe (plainBackup path) = .ok false
  stamped : d.probe (plainBackup path) ≠ .ok false →
    (backup = stampedBackup path stamp ↔ d.probe (stampedBackup path stamp) = .ok false)
  numbered : d.probe (plainBackup path) ≠ .ok false →
    d.probe (stampedBackup path stamp) ≠ .ok false →
      ∃ n, 1 ≤ n ∧ n + 1 < 2 ^ 32 ∧ backup = numberedBackup path stamp n ∧
        ∀ m, 1 ≤ m → m < n → d.probe (numberedBackup path stamp m) = .ok true

section Found

variable {path : Path} {stamp : String} {d : Disk} {i : Nat}

theorem exists_first_not_taken (d : Disk) (path : Path) (t : Instant) :
    ∃ i ≤ d.entries.size, d.probe (backupName path t.stamp i) ≠ .ok true ∧
      ∀ j < i, d.probe (backupName path t.stamp j) = .ok true := by
  obtain ⟨n, hn, hnot⟩ : ∃ n ≤ d.entries.size, d.probe (backupName path t.stamp n) ≠ .ok true :=
    d.exists_not_taken path (backupSuffix_injective t.stamp) (isSuffix_backupSuffix t)
  have hexists : ∃ i, d.probe (backupName path t.stamp i) ≠ .ok true := ⟨n, hnot⟩
  refine ⟨Nat.find hexists, (Nat.find_min' hexists hnot).trans hn, Nat.find_spec hexists,
    fun j hj => ?_⟩
  exact not_not.1 (Nat.find_min hexists hj)

theorem isFirstFree_backupName (hi : i < 2 ^ 32)
    (htaken : ∀ j < i, d.probe (backupName path stamp j) = .ok true)
    (hfree : d.probe (backupName path stamp i) = .ok false) :
    IsFirstFree d path stamp (backupName path stamp i) := by
  -- What is taken is not free, so `i` is no later than any name that is free.
  have hle : ∀ j, d.probe (backupName path stamp j) = .ok false → i ≤ j := by
    intro j hj
    by_contra hlt
    rw [htaken j (Nat.lt_of_not_le hlt)] at hj
    cases hj
  have hne : ∀ j, d.probe (backupName path stamp j) ≠ .ok false → i ≠ j := by
    rintro j hj rfl
    exact hj hfree
  refine ⟨⟨backupSuffix stamp i, rfl⟩, exists_text_backupName path stamp i, hfree,
    fun x hx => Disk.eq_none_of_probe hfree hx, ⟨fun heq => ?_, fun hplain => ?_⟩,
    fun hplain => ⟨fun heq => ?_, fun hstamped => ?_⟩, fun hplain hstamped => ?_⟩
  · rw [← heq]
    exact hfree
  · obtain rfl : i = 0 := Nat.le_zero.1 (hle 0 hplain)
    rfl
  · rw [← heq]
    exact hfree
  · obtain rfl : i = 1 := Nat.le_antisymm (hle 1 hstamped) (Nat.pos_of_ne_zero (hne 0 hplain))
    rfl
  · have hzero := hne 0 hplain
    have hone := hne 1 hstamped
    obtain ⟨n, rfl⟩ : ∃ n, i = n + 2 := ⟨i - 2, by omega⟩
    refine ⟨n + 1, by omega, by omega, rfl, fun m hm hlt => ?_⟩
    obtain ⟨k, rfl⟩ : ∃ k, m = k + 1 := ⟨m - 1, by omega⟩
    exact htaken (k + 2) (by omega)

/-- A free name for a backup is always found, as long as it can be seen of each name that is tried
whether something has it: the first that is free, within one try more than there are entries on the
disk, directories among them. No name is tried twice. -/
theorem exists_freeBackup {world : World} (hfew : world.disk.entries.size < 2 ^ 32)
    (hseen : ∀ p ∈ world.probed (freeBackup path), ∃ found, world.disk.probe p = .ok found) :
    ∃ backup, (World.run (freeBackup path) world).1 = .ok backup ∧
      (World.run (freeBackup path) world).2.disk = world.disk ∧
      IsFirstFree world.disk path world.now.stamp backup ∧
      (world.probed (freeBackup path)).Nodup ∧
      (world.probed (freeBackup path)).length ≤ world.disk.entries.size + 1 := by
  obtain ⟨i, hi, hnot, htaken⟩ := exists_first_not_taken world.disk path world.now
  have hlimit : backupLimit + 1 = 2 ^ 32 := by decide
  have hcomes : ComesTo (freeBackup path) world (backupName path world.now.stamp) i :=
    freeBackup_comesTo (by omega) htaken
  have hfree : world.disk.probe (backupName path world.now.stamp i) = .ok false := by
    obtain ⟨found, hfound⟩ := hseen _ hcomes.probes
    cases found with
    | true => exact absurd hfound hnot
    | false => exact hfound
  obtain ⟨hresult, hdisk, hprobed⟩ := hcomes.finds hfree
  refine ⟨_, hresult, hdisk, isFirstFree_backupName (by omega) htaken hfree, ?_, ?_⟩
  · rw [hprobed]
    exact List.nodup_range.map (backupName_injective path world.now.stamp)
  · rw [hprobed, List.length_map, List.length_range]
    omega

/-- A file that was written four times within the first millisecond of 1970. -/
def writtenOften : World where
  disk := ((((Disk.empty []).insert ["f"] (.file "4".toUTF8)).insert ["f.bak"]
    (.file "1".toUTF8)).insert ["f.19700101_000000_000.bak"] (.file "2".toUTF8)).insert
    ["f.19700101_000000_000_1.bak"] (.file "3".toUTF8)
  now := ⟨0, 0⟩
  issued := 0
  cancelled := false

theorem exists_freeBackup_writtenOften :
    (World.run (freeBackup ⟨"f"⟩) writtenOften).1 = .ok ⟨"f.19700101_000000_000_2.bak"⟩ ∧
      ∃ backup, (World.run (freeBackup ⟨"f"⟩) writtenOften).1 = .ok backup ∧
        (World.run (freeBackup ⟨"f"⟩) writtenOften).2.disk = writtenOften.disk ∧
        IsFirstFree writtenOften.disk ⟨"f"⟩ writtenOften.now.stamp backup ∧
        (writtenOften.probed (freeBackup ⟨"f"⟩)).Nodup ∧
        (writtenOften.probed (freeBackup ⟨"f"⟩)).length ≤ writtenOften.disk.entries.size + 1 :=
  ⟨by decide +kernel, exists_freeBackup (by decide) (by decide +kernel)⟩

end Found

end Output

end SchemaCodegen
