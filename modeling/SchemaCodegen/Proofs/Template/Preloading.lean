import Mathlib.Data.List.Perm.Subperm
import SchemaCodegen.Proofs.Template.Walking

/-!
# Preloading every template

Preloading goes through exactly if for each template file that the walk finds, the file that its
name leads to can be read and compiled. That is the file that was found where it is spelled plainly,
so for plain spellings each file found has a slot of its own with its own template
(`Engine.preloadAll_covers`). An ending in capitals, or a second ending, leads elsewhere.
-/

namespace SchemaCodegen.Template

/-! ## Counting slots -/

/-- Of two lists with the same members, the one that has none twice is as long as the other one
exactly if that has none twice either. -/
theorem length_eq_iff_nodup {α : Type} {as bs : List α} (has : as.Nodup)
    (hmem : ∀ a, a ∈ as ↔ a ∈ bs) : as.length = bs.length ↔ bs.Nodup := by
  constructor
  · intro hlength
    have hsub := has.subperm fun a ha => (hmem a).1 ha
    exact (hsub.perm_of_length_le hlength.ge).nodup_iff.1 has
  · intro hbs
    exact ((List.perm_ext_iff_of_nodup has hbs).2 hmem).length_eq

/-- Every slot of such a cache counts. -/
theorem Cache.Faithful.count_eq {root : Path} {content : Contents} {cache : Cache}
    (h : Faithful root content cache) : cache.count = cache.slots.keys.length := by
  have hready : ∀ slot ∈ cache.slots.toList, (cache.cell slot.2).isReady = true := by
    intro slot hslot
    obtain ⟨main, hmain⟩ := h _ _ (Std.ExtTreeMap.mem_toList_iff_getElem?_eq_some.1 hslot)
    exact hmain.isReady
  rw [Cache.count, List.filter_eq_self.2 hready, ← Std.ExtTreeMap.map_fst_toList_eq_keys,
    List.length_map]

namespace Engine

open Cache (Faithful)

variable {root : Path} {listing : Listings} {content : Contents} {place : Place} {name : String}
  {names : List String} {cache cache' : Cache}

/-! ## Templates of names -/

/-- A name under which a template can be kept: the file that it leads to can be read and
compiled. -/
def Loads (root : Path) (content : Contents) (name key : String) : Prop :=
  Name.normalize name = .ok key ∧
    ∃ main, Compiles (.exact content) (Name.file root key) key main

-- Neither names nor listings are looked into here, and both take long to unfold.
attribute [local irreducible] Name.normalize namesBelow

/-- A template is preloaded exactly if it can be, and nothing but its slot is added. -/
theorem of_preload_exact {outcome : Outcome Unit}
    (h : (preload root name).Runs (serving (.exact content)) cache outcome cache')
    (hcache : Faithful root content cache) :
    (∃ key, outcome = .ok () ∧ Loads root content name key ∧
        ∀ k, k ∈ cache'.slots ↔ k = key ∨ k ∈ cache.slots) ∨
      (∃ failure, outcome = .error failure) ∧ ∀ key, ¬ Loads root content name key := by
  unfold preload at h
  cases hname : Name.normalize name with
  | error failure =>
    rw [hname] at h
    obtain ⟨rfl, rfl⟩ := Script.runs_pure.1 h
    refine .inr ⟨⟨failure, rfl⟩, fun key hloads => ?_⟩
    cases hname.symm.trans hloads.1
  | ok key =>
    rw [hname] at h
    obtain ⟨obtained, between, hobtain, h⟩ := Script.runs_bind.1 h
    obtain ⟨rfl, rfl⟩ := Script.runs_pure.1 h
    cases obtained_of_runs hcache hobtain with
    | @kept n main hslot hholds =>
      refine .inl ⟨key, rfl, ⟨hname, main, hholds.own⟩, fun k => ?_⟩
      have hkey : key ∈ cache.slots :=
        Std.ExtTreeMap.mem_iff_isSome_getElem?.2 (by rw [hslot]; rfl)
      exact ⟨.inr, fun hk => hk.elim (fun e => e ▸ hkey) id⟩
    | @compiled main hslot hread =>
      refine .inl ⟨key, rfl, ⟨hname, main, runs_read_ok.1 hread⟩, fun k => ?_⟩
      change k ∈ cache.slots.insert key cache.cells.length ↔ _
      rw [Std.ExtTreeMap.mem_insert, Std.LawfulEqCmp.compare_eq_iff_eq, eq_comm]
    | @failed cause hslot hread =>
      refine .inr ⟨⟨_, rfl⟩, fun key' hloads => ?_⟩
      obtain ⟨hkey, main, hcompiles⟩ := hloads
      cases hname.symm.trans hkey
      cases runs_unique (asks_read.mono fun _ => readsFile_of_asked hname) hread
        (runs_read_ok.2 hcompiles)

theorem of_preloadEach_exact {outcome : Outcome Unit}
    (h : (preloadEach root names).Runs (serving (.exact content)) cache outcome cache')
    (hcache : Faithful root content cache) :
    (outcome = .ok () ↔ ∀ name ∈ names, ∃ key, Loads root content name key) ∧
      (outcome = .ok () → ∀ k, k ∈ cache'.slots ↔
        (∃ name ∈ names, Name.normalize name = .ok k) ∨ k ∈ cache.slots) := by
  induction names generalizing cache with
  | nil =>
    obtain ⟨rfl, rfl⟩ := Script.runs_pure.1 h
    simp
  | cons name names ih =>
    obtain ⟨first, between, hfirst, h⟩ := Script.runs_bind.1 h
    have hbetween := (of_preload Readings.honest_exact hfirst hcache).2
    rcases of_preload_exact hfirst hcache with ⟨key, rfl, hloads, hslots⟩ | ⟨⟨failure, rfl⟩, hno⟩
    · obtain ⟨hrest, hkept⟩ := ih h hbetween
      refine ⟨hrest.trans ?_, fun hok k => (hkept hok k).trans ?_⟩
      · rw [List.forall_mem_cons]
        exact (and_iff_right ⟨key, hloads⟩).symm
      · rw [hslots, List.exists_mem_cons_iff, hloads.1, Except.ok.injEq, eq_comm (a := k),
          or_left_comm, or_assoc]
    · obtain ⟨rfl, rfl⟩ := Script.runs_pure.1 h
      refine ⟨iff_of_false nofun fun hall => ?_, nofun⟩
      obtain ⟨key, hloads⟩ := hall name List.mem_cons_self
      exact hno key hloads

/-! ## All templates -/

variable {outcome : Outcome Nat} {n : Nat}

/-- A machine that lists and reads what is given, and a cache. -/
def offering (listing : Listings) (content : Contents) : engine.Step Cache :=
  Interface.Step.sum (browsing listing content) (.ofAnswer Cache.answer)

theorem serving_of_offering {call : engine.Call} {reply : engine.Reply call}
    (h : offering listing content call cache reply cache') :
    serving (.exact content) call cache reply cache' := by
  rcases call with call | call
  · cases call with
    | list path => exact h.2
    | _ => exact h
  · exact h

theorem of_preloadAll_exact
    (hruns : (preloadAll root).Runs (offering listing content) cache outcome cache')
    (hcache : Faithful root content cache) :
    ((∃ n, outcome = .ok n) ↔ IsListable listing depthLimit root ∧
      ∀ place, Found listing root place → ∃ key, Loads root content place.name key) ∧
    ∀ n, outcome = .ok n → n = (templatesBelow listing depthLimit root).length ∧
      ∀ k, k ∈ cache'.slots ↔
        (∃ place, Found listing root place ∧ Name.normalize place.name = .ok k) ∨
          k ∈ cache.slots := by
  obtain ⟨listed, between, hlisted, h⟩ := Script.runs_bind.1 hruns
  have hwalk : Procedure.Runs (browsing listing content) (namesBelow depthLimit [] root) cache
      listed between := Script.runs_left.1 hlisted
  cases listed with
  | error failure =>
    obtain ⟨rfl, rfl⟩ := Script.runs_pure.1 h
    refine ⟨iff_of_false (fun hok => nomatch hok) fun hall => ?_, nofun⟩
    cases (runs_namesBelow_unique hwalk (runs_namesBelow_ok.2 ⟨hall.1, rfl, rfl⟩)).1
  | ok names =>
    obtain ⟨hlistable, hnames, rfl⟩ := runs_namesBelow_ok.1 hwalk
    obtain ⟨each, after, heach, hdone⟩ := Script.runs_bind.1 h
    obtain ⟨rfl, rfl⟩ := Script.runs_pure.1 hdone
    obtain ⟨hok, hslots⟩ := of_preloadEach_exact (heach.mono fun _ _ _ _ => serving_of_offering)
      hcache
    -- The names that are preloaded are those of the files found, in another order.
    have hperm := List.mergeSort_perm names fun a b => !(b < a)
    have hmem : ∀ name, name ∈ names.mergeSort (fun a b => !(b < a)) ↔
        ∃ place, Found listing root place ∧ place.name = name := by
      intro name
      rw [hperm.mem_iff, hnames, namesUnder_nil, List.mem_map]
      exact exists_congr fun place => and_congr_left fun _ => mem_templatesBelow_iff hlistable
    have hloads : (∀ name ∈ names.mergeSort fun a b => !(b < a),
        ∃ key, Loads root content name key) ↔
          ∀ place, Found listing root place → ∃ key, Loads root content place.name key := by
      simp only [hmem]
      exact ⟨fun h place hfound => h _ ⟨place, hfound, rfl⟩,
        fun h name ⟨place, hfound, hname⟩ => hname ▸ h place hfound⟩
    cases each with
    | error failure =>
      refine ⟨iff_of_false (fun hok => nomatch hok) fun hall => ?_, nofun⟩
      cases hok.2 (hloads.2 hall.2)
    | ok =>
      refine ⟨iff_of_true ⟨_, rfl⟩ ⟨hlistable, hloads.1 (hok.1 rfl)⟩, fun n hn => ⟨?_, fun k => ?_⟩⟩
      · rw [← Except.ok.inj hn, hperm.length_eq, hnames, namesUnder_nil, List.length_map]
      · rw [hslots rfl k]
        simp only [hmem]
        exact or_congr_left ⟨fun ⟨name, ⟨place, hfound, hname⟩, hkey⟩ =>
            ⟨place, hfound, hname ▸ hkey⟩,
          fun ⟨place, hfound, hkey⟩ => ⟨_, ⟨place, hfound, rfl⟩, hkey⟩⟩

/-- From no slots on, the names that files are found under come to the slots. As many as files are
found they are exactly if no two names come to the same. -/
theorem of_preloadAll_empty
    (hruns : (preloadAll root).Runs (offering listing content) cache (.ok n) cache')
    (hregular : listing.Regular) (hempty : cache.slots = ∅) :
    Faithful root content cache' ∧
      (∀ k, k ∈ cache'.slots ↔
        ∃ place, Found listing root place ∧ Name.normalize place.name = .ok k) ∧
      (cache'.count = n ↔ ∀ p q, Found listing root p → Found listing root q →
        Name.normalize p.name = Name.normalize q.name → p = q) := by
  have hcache : Faithful root content cache := by
    intro name k hk
    rw [hempty] at hk
    simp at hk
  have hcache' : Faithful root content cache' := faithful_of_preloadAll Readings.honest_exact
    (hruns.mono fun _ _ _ _ => serving_of_offering) hcache
  obtain ⟨hok, hslots⟩ := of_preloadAll_exact hruns hcache
  obtain ⟨hlistable, hloads⟩ := hok.1 ⟨n, rfl⟩
  obtain ⟨rfl, hkept⟩ := hslots n rfl
  have hkept : ∀ k, k ∈ cache'.slots ↔
      ∃ place, Found listing root place ∧ Name.normalize place.name = .ok k := by
    intro k
    rw [hkept k, hempty]
    exact or_iff_left Std.ExtTreeMap.not_mem_empty
  refine ⟨hcache', hkept, ?_⟩
  have hkeys : (cache'.slots.keys.map Except.ok : List (Outcome String)).Nodup :=
    Std.ExtTreeMap.nodup_keys.map fun _ _ => Except.ok.inj
  have hmem : ∀ key : Outcome String, key ∈ cache'.slots.keys.map Except.ok ↔
      key ∈ (templatesBelow listing depthLimit root).map fun place =>
        Name.normalize place.name := by
    intro key
    simp only [List.mem_map, Std.ExtTreeMap.mem_keys, hkept, mem_templatesBelow_iff hlistable]
    constructor
    · rintro ⟨k, ⟨place, hfound, hkey⟩, rfl⟩
      exact ⟨place, hfound, hkey⟩
    · rintro ⟨place, hfound, rfl⟩
      obtain ⟨k, hkey, -⟩ := hloads place hfound
      exact ⟨k, ⟨place, hfound, hkey⟩, hkey.symm⟩
  have hlength := length_eq_iff_nodup hkeys hmem
  rw [List.length_map, List.length_map, ← hcache'.count_eq,
    List.nodup_map_iff_inj_on (nodup_templatesBelow hregular depthLimit root)] at hlength
  rw [hlength]
  simp only [mem_templatesBelow_iff hlistable]
  exact ⟨fun h p q hp hq => h p hp q hq, fun h p hp q hq => h p q hp hq⟩

/-- A machine that lists and reads what is given, and stays as it is when it does. -/
structure Offers {σ : Type} (answer : (call : Machine.Call) → σ → Machine.Reply call × σ) (s : σ)
    (listing : Listings) (content : Contents) : Prop where
  list : ∀ path, answer (.list path) s = (listing path, s)
  read : ∀ path, answer (.read path) s = (content path, s)

/-- A machine without faults does. -/
theorem offers_world (world : World) :
    Offers World.answer world world.disk.listDirectory world.disk.readFile :=
  ⟨fun _ => rfl, fun _ => rfl⟩

theorem runs_offering {σ : Type} {answer : (call : Machine.Call) → σ → Machine.Reply call × σ}
    {s s' : σ} (hoffers : Offers answer s listing content)
    (hrun : Script.run (I := machine.sum caching) (Script.answerSum answer Cache.answer)
      (preloadAll root) (s, cache) = (outcome, s', cache')) :
    (preloadAll root).Runs (offering listing content) cache outcome cache' := by
  have hruns : (preloadAll root).Runs (.ofAnswer (Script.answerSum answer Cache.answer)) (s, cache)
      outcome (s', cache') := Script.runs_ofAnswer.2 hrun
  refine (Script.Asks.map (f := Prod.snd) (P := fun t : σ × Cache => t.1 = s) asks_preloadAll
    ?_ hruns rfl).1
  rintro call ⟨t, c⟩ reply ⟨t', c'⟩ hallowed hstep rfl
  rcases call with call | call
  · cases call with
    | read path =>
      change ((answer (.read path) t).1, (answer (.read path) t).2, c) = _ at hstep
      rw [hoffers.read path] at hstep
      cases hstep
      exact ⟨⟨rfl, rfl⟩, rfl⟩
    | list path =>
      change ((answer (.list path) t).1, (answer (.list path) t).2, c) = _ at hstep
      rw [hoffers.list path] at hstep
      cases hstep
      exact ⟨⟨rfl, rfl⟩, rfl⟩
    | _ => cases hallowed
  · cases hstep
    exact ⟨rfl, rfl⟩

/-- Where a file is spelled plainly, its name stands for the file itself. -/
theorem exists_loads_iff (hplain : place.IsPlain) (htemplate : place.IsTemplate)
    (hlisted : place.IsListed) : (∃ key, Loads root content place.name key) ↔
      ∃ main, Compiles (.exact content) (place.path root) place.name main := by
  have hnormalize := hplain.normalize_name htemplate hlisted
  rw [← hplain.file_eq_path htemplate hlisted root]
  constructor
  · rintro ⟨key, hkey, hcompiles⟩
    cases hnormalize.symm.trans hkey
    exact hcompiles
  · exact fun hcompiles => ⟨place.name, hnormalize, hcompiles⟩

/-- Files that are spelled plainly come to slots of their own, each with its own template. -/
theorem of_preloadAll_plain
    (hruns : (preloadAll root).Runs (offering listing content) cache (.ok n) cache')
    (hregular : listing.Regular) (hempty : cache.slots = ∅)
    (hplain : ∀ place, Found listing root place → place.IsPlain) :
    cache'.count = n ∧ ∀ place, Found listing root place →
      ∃ k main, cache'.slots[place.name]? = some k ∧ (cache'.cell k).main? = some main ∧
        Compiles (.exact content) (place.path root) place.name main := by
  obtain ⟨hcache', hkept, hcount⟩ := of_preloadAll_empty hruns hregular hempty
  have hlisted : ∀ {place}, Found listing root place → place.IsListed := fun hfound =>
    hfound.below.isListed hregular
  have hnormalize : ∀ {place}, Found listing root place →
      Name.normalize place.name = .ok place.name := fun {place} hfound =>
    (hplain place hfound).normalize_name hfound.template (hlisted hfound)
  refine ⟨hcount.2 fun p q hp hq hname => ?_, fun place hfound => ?_⟩
  · rw [hnormalize hp, hnormalize hq, Except.ok.injEq] at hname
    exact (hplain p hp).name_inj hp.template (hlisted hp) (hplain q hq) hq.template (hlisted hq)
      hname
  · have hmem := (hkept place.name).2 ⟨place, hfound, hnormalize hfound⟩
    obtain ⟨k, hk⟩ := Option.isSome_iff_exists.1 (Std.ExtTreeMap.mem_iff_isSome_getElem?.1 hmem)
    obtain ⟨main, hholds⟩ := hcache' _ k hk
    refine ⟨k, main, hk, hholds.main?_eq, ?_⟩
    rw [← (hplain place hfound).file_eq_path hfound.template (hlisted hfound) root]
    exact hholds.own

/-- Preloading everything succeeds exactly if all directories can be listed and for each template
file found the file that its name leads to can be read and compiled. It tells how many files were
found; from no slots on, that many are kept exactly if no two names come to the same. The name leads
back to the file exactly if that is spelled plainly: so if all are, preloading succeeds exactly if
each file found can be read and compiled, and then each has a slot of its own with what was
compiled from that very file. -/
theorem preloadAll_covers {σ : Type}
    {answer : (call : Machine.Call) → σ → Machine.Reply call × σ} {s s' : σ}
    (hoffers : Offers answer s listing content) (hregular : listing.Regular)
    (hcache : Faithful root content cache)
    (hrun : Script.run (I := machine.sum caching) (Script.answerSum answer Cache.answer)
      (preloadAll root) (s, cache) = (outcome, s', cache')) :
    ((∃ n, outcome = .ok n) ↔ IsListable listing depthLimit root ∧
      ∀ place, Found listing root place → ∃ key, Loads root content place.name key) ∧
    (∀ n, outcome = .ok n → (∃ files : List Place, files.Nodup ∧ files.length = n ∧
        ∀ place, place ∈ files ↔ Found listing root place) ∧
      (cache.slots = ∅ → (cache'.count = n ↔ ∀ p q, Found listing root p → Found listing root q →
        Name.normalize p.name = Name.normalize q.name → p = q))) ∧
    (∀ place, Found listing root place →
      ((∃ key, Name.normalize place.name = .ok key ∧ Name.file root key = place.path root) ↔
        place.IsPlain)) ∧
    ((∀ place, Found listing root place → place.IsPlain) →
      ((∃ n, outcome = .ok n) ↔ IsListable listing depthLimit root ∧
        ∀ place, Found listing root place →
          ∃ main, Compiles (.exact content) (place.path root) place.name main) ∧
      ∀ n, outcome = .ok n → cache.slots = ∅ → cache'.count = n ∧
        ∀ place, Found listing root place → ∃ k main, cache'.slots[place.name]? = some k ∧
          (cache'.cell k).main? = some main ∧
          Compiles (.exact content) (place.path root) place.name main) := by
  have hruns := runs_offering hoffers hrun
  have hlisted : ∀ {place}, Found listing root place → place.IsListed := fun hfound =>
    hfound.below.isListed hregular
  obtain ⟨hok, hslots⟩ := of_preloadAll_exact hruns hcache
  refine ⟨hok, fun n hn => ⟨?_, fun hempty => ?_⟩, fun place hfound =>
    Place.exists_file_eq_path_iff hfound.template (hlisted hfound) root, fun hplain => ⟨?_, ?_⟩⟩
  · exact ⟨_, nodup_templatesBelow hregular depthLimit root, (hslots n hn).1.symm,
      fun place => mem_templatesBelow_iff (hok.1 ⟨n, hn⟩).1⟩
  · subst hn
    exact (of_preloadAll_empty hruns hregular hempty).2.2
  · rw [hok]
    exact and_congr_right fun _ => forall_congr' fun place => forall_congr' fun hfound =>
      exists_loads_iff (hplain place hfound) hfound.template (hlisted hfound)
  · rintro n rfl hempty
    exact of_preloadAll_plain hruns hregular hempty hplain

end Engine

namespace Misspelled

/-- A disk with a template directory. -/
def world (entries : List (Disk.Location × Disk.Entry)) : World :=
  ⟨⟨entries.foldl (fun entries (location, entry) => entries.insert location entry)
    ((∅ : Std.ExtTreeMap Disk.Location Disk.Entry).insert ["templates"] .directory), []⟩,
    default, 0, false⟩

def root : Path := ⟨"templates"⟩

def text (s : String) : Disk.Entry :=
  .file s.toUTF8

/-- Two templates, one of them in a directory, and a file of another kind. -/
def plain : World :=
  world [(["templates", "a.j2"], text "x"), (["templates", "d.j2"], .directory),
    (["templates", "d.j2", "b.j2"], text "y"), (["templates", "n.txt"], text "z")]

/-- One template with its ending in capitals. -/
def capitals : World :=
  world [(["templates", "U.J2"], text "u")]

/-- Two templates, one of them with two endings. -/
def doubled : World :=
  world [(["templates", "a.j2"], text "x"), (["templates", "a.j2.j2"], text "y")]

/-- A file with a text that compiles. -/
theorem exists_compiles {content : Contents} {path : Path} {name source : String}
    (hread : content path = .ok source.toUTF8)
    (hcompile : (compile name source).toOption.isSome = true) :
    ∃ main, Engine.Compiles (.exact content) path name main := by
  cases h : compile name source with
  | ok main => exact ⟨main, _, source, hread.symm, Job.fromUTF8?_eq_some_iff.2 rfl, h⟩
  | error fault =>
    rw [h] at hcompile
    cases hcompile

set_option maxRecDepth 100000 in
theorem found_plain {place : Place} : Found plain.disk.listDirectory root place ↔
    place ∈ [(⟨[], "a.j2"⟩ : Place), ⟨["d.j2"], "b.j2"⟩] := by
  have hlistable : IsListable plain.disk.listDirectory 2 root := by decide
  exact found_iff hlistable (by decide)

set_option maxRecDepth 100000 in
/-- Both templates are preloaded, each into a slot of its own. -/
theorem preloadAll_covers_plain : ∃ (world' : World) (cache : Cache),
    runAlone (Engine.preloadAll root) plain default = (.ok 2, world', cache) ∧ cache.count = 2 ∧
      ∀ place ∈ [(⟨[], "a.j2"⟩ : Place), ⟨["d.j2"], "b.j2"⟩], place.IsPlain ∧
        ∃ k main, cache.slots[place.name]? = some k ∧ (cache.cell k).main? = some main ∧
          Engine.Compiles (.exact plain.disk.readFile) (place.path root) place.name main := by
  have hplain : ∀ place, Found plain.disk.listDirectory root place → place.IsPlain := by
    intro place hfound
    have hall : ∀ place ∈ [(⟨[], "a.j2"⟩ : Place), ⟨["d.j2"], "b.j2"⟩], place.IsPlain := by
      decide
    exact hall place (found_plain.1 hfound)
  have hcompiles : ∀ place, Found plain.disk.listDirectory root place →
      ∃ main, Engine.Compiles (.exact plain.disk.readFile) (place.path root) place.name main := by
    intro place hfound
    simp only [found_plain, List.mem_cons, List.not_mem_nil, or_false] at hfound
    rcases hfound with rfl | rfl
    · exact exists_compiles
        (show plain.disk.readFile _ = .ok "x".toUTF8 by decide) (by decide)
    · exact exists_compiles
        (show plain.disk.readFile _ = .ok "y".toUTF8 by decide) (by decide)
  have hempty : (default : Cache).slots = ∅ := rfl
  rcases hrun : runAlone (Engine.preloadAll root) plain default with ⟨outcome, world', cache⟩
  obtain ⟨-, hnumber, -, hcovers⟩ := Engine.preloadAll_covers (Engine.offers_world plain)
    (Listings.regular_listDirectory (by decide)) .empty hrun
  obtain ⟨hok, hslots⟩ := hcovers hplain
  obtain ⟨n, rfl⟩ := hok.2 ⟨by decide, hcompiles⟩
  obtain ⟨⟨files, hnodup, hlength, hfiles⟩, -⟩ := hnumber n rfl
  have htwo : ([⟨[], "a.j2"⟩, ⟨["d.j2"], "b.j2"⟩] : List Place).Nodup := by decide
  have hperm := (List.perm_ext_iff_of_nodup hnodup htwo).2 fun place =>
    (hfiles place).trans found_plain
  obtain rfl : n = 2 := hlength.symm.trans hperm.length_eq
  obtain ⟨hcount, hkept⟩ := hslots 2 rfl hempty
  exact ⟨world', cache, rfl, hcount, fun place hplace =>
    ⟨hplain place (found_plain.2 hplace), hkept place (found_plain.2 hplace)⟩⟩

set_option maxRecDepth 100000 in
theorem found_capitals {place : Place} : Found capitals.disk.listDirectory root place ↔
    place ∈ [(⟨[], "U.J2"⟩ : Place)] := by
  have hlistable : IsListable capitals.disk.listDirectory 1 root := by decide
  exact found_iff hlistable (by decide)

set_option maxRecDepth 100000 in
theorem found_doubled {place : Place} : Found doubled.disk.listDirectory root place ↔
    place ∈ [(⟨[], "a.j2"⟩ : Place), ⟨[], "a.j2.j2"⟩] := by
  have hlistable : IsListable doubled.disk.listDirectory 1 root := by decide
  exact found_iff hlistable (by decide)

theorem compiles_capitals {place : Place} (hfound : Found capitals.disk.listDirectory root place) :
    ∃ main, Engine.Compiles (.exact capitals.disk.readFile) (place.path root) place.name main := by
  rw [List.mem_singleton.1 (found_capitals.1 hfound)]
  exact exists_compiles
    (show capitals.disk.readFile _ = .ok "u".toUTF8 by decide) (by decide)

theorem compiles_doubled {place : Place} (hfound : Found doubled.disk.listDirectory root place) :
    ∃ main, Engine.Compiles (.exact doubled.disk.readFile) (place.path root) place.name main := by
  simp only [found_doubled, List.mem_cons, List.not_mem_nil, or_false] at hfound
  rcases hfound with rfl | rfl
  · exact exists_compiles
      (show doubled.disk.readFile _ = .ok "x".toUTF8 by decide) (by decide)
  · exact exists_compiles
      (show doubled.disk.readFile _ = .ok "y".toUTF8 by decide) (by decide)

/-- The name of `U.J2` leads to `U.j2`, which is not there. -/
theorem not_loads_capitals (key : String) :
    ¬ Engine.Loads root capitals.disk.readFile "U" key := by
  rintro ⟨hkey, main, bytes, -, hread, -⟩
  have hname : Name.normalize "U" = .ok "U" :=
    Name.normalize_eq_ok (by decide) (by decide) (by decide)
  cases hname.symm.trans hkey
  have hmissing : capitals.disk.readFile (Name.file root "U") = .error .notFound := by
    decide
  cases hread.trans hmissing

/-- The names of `a.j2` and `a.j2.j2` both lead to `a.j2`. -/
theorem loads_doubled {place : Place} (hfound : Found doubled.disk.listDirectory root place) :
    Engine.Loads root doubled.disk.readFile place.name "a" := by
  have hcompiles : ∃ main, Engine.Compiles (.exact doubled.disk.readFile) (Name.file root "a") "a"
      main := exists_compiles
    (show doubled.disk.readFile _ = .ok "x".toUTF8 by decide) (by decide)
  refine ⟨?_, hcompiles⟩
  simp only [found_doubled, List.mem_cons, List.not_mem_nil, or_false] at hfound
  rcases hfound with rfl | rfl
  · exact Name.normalize_eq_ok (by decide) (by decide) (by decide)
  · exact Name.normalize_eq_ok (by decide) (by decide) (by decide)

set_option maxRecDepth 100000 in
/-- A file with its ending in capitals is found and can be read and compiled, and preloading fails,
as the file that its name leads to is not there. A file with two endings is found, and not kept: its
name leads to the file with one. -/
theorem preloadAll_misses :
    ((∀ place, Found capitals.disk.listDirectory root place → ∃ main,
        Engine.Compiles (.exact capitals.disk.readFile) (place.path root) place.name main) ∧
      ∀ n, (runAlone (Engine.preloadAll root) capitals default).1 ≠ .ok n) ∧
    (∀ place, Found doubled.disk.listDirectory root place → ∃ main,
        Engine.Compiles (.exact doubled.disk.readFile) (place.path root) place.name main) ∧
      (runAlone (Engine.preloadAll root) doubled default).1 = .ok 2 ∧
      (runAlone (Engine.preloadAll root) doubled default).2.2.count ≠ 2 := by
  refine ⟨⟨fun _ => compiles_capitals, fun n hn => ?_⟩, fun _ => compiles_doubled, ?_⟩
  · rcases hrun : runAlone (Engine.preloadAll root) capitals default with ⟨outcome, world', cache⟩
    rw [hrun] at hn
    have hruns := Engine.runs_offering (Engine.offers_world capitals) hrun
    obtain ⟨-, hloads⟩ := (Engine.of_preloadAll_exact hruns .empty).1.1 ⟨n, hn⟩
    obtain ⟨key, hkey⟩ := hloads ⟨[], "U.J2"⟩ (found_capitals.2 (by decide))
    exact not_loads_capitals key hkey
  · rcases hrun : runAlone (Engine.preloadAll root) doubled default with ⟨outcome, world', cache⟩
    have hruns := Engine.runs_offering (Engine.offers_world doubled) hrun
    have hregular : Listings.Regular doubled.disk.listDirectory :=
      Listings.regular_listDirectory (by decide)
    obtain ⟨hok, hnumber⟩ := Engine.of_preloadAll_exact hruns .empty
    obtain ⟨n, rfl⟩ := hok.2 ⟨by decide, fun _ hfound => ⟨"a", loads_doubled hfound⟩⟩
    have htwo : (templatesBelow doubled.disk.listDirectory Engine.depthLimit root).length = 2 := by
      decide
    obtain rfl := (hnumber n rfl).1.trans htwo
    refine ⟨rfl, fun hcount => ?_⟩
    have ha : Found doubled.disk.listDirectory root ⟨[], "a.j2"⟩ := found_doubled.2 (by decide)
    have haa : Found doubled.disk.listDirectory root ⟨[], "a.j2.j2"⟩ := found_doubled.2 (by decide)
    have hsame := (Engine.of_preloadAll_empty hruns hregular rfl).2.2.1 hcount _ _ ha haa
      ((loads_doubled ha).1.trans (loads_doubled haa).1.symm)
    exact absurd hsame (by decide)

end Misspelled

end SchemaCodegen.Template
