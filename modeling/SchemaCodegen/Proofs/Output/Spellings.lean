import SchemaCodegen.Proofs.Disk.Descent
import SchemaCodegen.Proofs.Output.Workshop

/-!
# Spellings of a path

A lock is registered under the steps of a path from the root, and `..` is one of them
(`Path.stepsFrom`). So spellings of a file that differ in `.`, in slashes or in where they start
have one lock, and calls through them take turns (`spellings_take_turns`). A spelling that comes
back by `..` has another lock than a plain one: two calls may hold their locks at once, and what one
of them has written is lost (`version_lost_between_spellings`).
-/

namespace SchemaCodegen

/-! ## Locks and files -/

namespace Path

variable {base p q : Path}

/-- The steps of a path from the root, if relative paths start at `base`. -/
def stepsFrom (base p : Path) : List String :=
  (if p.isAbsolute then [] else base.steps) ++ p.steps

/-- Paths have one lock exactly if they are spelled by the same steps. -/
theorem absoluteFrom_eq_iff_stepsFrom :
    absoluteFrom base p = absoluteFrom base q ↔ stepsFrom base p = stepsFrom base q := by
  rw [absoluteFrom_eq_iff, components_absoluteFrom, components_absoluteFrom, List.cons.injEq,
    and_iff_right rfl]
  exact (List.map_injective_iff.2 Component.ofSegment_injective).eq_iff

theorem mem_stepsFrom_iff (hbase : ".." ∉ base.steps) :
    ".." ∈ stepsFrom base p ↔ ".." ∈ p.steps := by
  unfold stepsFrom
  split <;> simp [hbase]

end Path

namespace Disk

variable {d : Disk} {base p q : Path} {x : Location}

theorem Names.eq_stepsFrom (h : d.Names p x) (hhere : d.workingDirectory = base.steps)
    (hdown : ".." ∉ p.steps) : x = Path.stepsFrom base p := by
  rw [h.eq_of_down hdown, start, hhere, Path.stepsFrom]

/-- A path has the lock of a file that it leads to exactly if it has no `..`. -/
theorem Names.absoluteFrom_eq_iff (hp : d.Names p x) (hq : d.Names q x)
    (hhere : d.workingDirectory = base.steps) (hbase : ".." ∉ base.steps)
    (hdown : ".." ∉ p.steps) :
    Path.absoluteFrom base p = Path.absoluteFrom base q ↔ ".." ∉ q.steps := by
  rw [Path.absoluteFrom_eq_iff_stepsFrom]
  constructor
  · intro hsteps hup
    rw [← Path.mem_stepsFrom_iff hbase, ← hsteps, Path.mem_stepsFrom_iff hbase] at hup
    exact hdown hup
  · intro hdown'
    rw [← hp.eq_stepsFrom hhere hdown, hq.eq_stepsFrom hhere hdown']

end Disk

namespace Output

namespace Workshop

/-! ## Taking turns -/

/-- Calls work one after the other: but for what the one has done that holds the lock, the disk is
what some of them have left, each as a whole. Nothing is lost that was there at the start, nor what
a call has written. -/
structure TakesTurns (errands : List Errand) (d : Disk) (shop : Workshop) : Prop where
  exclusive : ∀ (i j : Nat) v w key key' m n, shop.pool.writers[i]? = some v →
    shop.pool.writers[j]? = some w → v.standing = .holding key m → w.standing = .holding key' n →
      i = j
  serial : ∃ log e, InTurn errands d log e ∧
    (∀ (i : Nat) w written, shop.pool.writers[i]? = some w → w.rest = .done (.ok written) →
      (i, .ok written) ∈ log) ∧
    (∀ (i : Nat) w key n, shop.pool.writers[i]? = some w → w.standing = .holding key n →
      ∃ errand rest, errands[i]? = some errand ∧ (errand.request.job errand.path).run.Reaches
        (faulty errand.path true) e rest shop.disk) ∧
    ((∀ w ∈ shop.pool.writers, ∀ key n, w.standing ≠ .holding key n) → shop.disk = e)
  kept : Keeps d shop.disk
  written : ∀ (i : Nat) w written, shop.pool.writers[i]? = some w → w.rest = .done (.ok written) →
    ∃ errand between content p, errands[i]? = some errand ∧ Requests d between ∧
      errand.request.Puts errand.path between content ∧ shop.disk.readFile p = .ok content.toUTF8

section

variable {base key : Path} {shop : Workshop} {errands : List Errand} {d e : Disk}
  {log : List (Nat × Outcome Written)} {i n : Nat} {w : Writer}

/-- The call that holds a lock holds that of all the paths. -/
theorem Served.of_holding (hkey : ∀ errand ∈ errands, Path.absoluteFrom base errand.path = key)
    (h : Served base key errands d shop log e) {other : Path}
    (writer : shop.pool.writers[i]? = some w) (holds : w.standing = .holding other n) :
    other = key ∧ ∃ errand rest, errands[i]? = some errand ∧
      errand.request.task errand.path = Task.locked errand.path (errand.request.job errand.path) ∧
      (errand.request.job errand.path).run.Reaches (faulty errand.path true) e rest shop.disk := by
  obtain ⟨errand, herrand, -, hstands⟩ := h.stands i w writer
  obtain ⟨a, path⟩ := w
  cases hstands with
  | holding m isAbandoned rest locked reaches =>
    cases holds
    exact ⟨hkey errand (List.mem_of_getElem? herrand), errand, rest, herrand, locked, reaches⟩
  | _ => cases holds

theorem Served.keeps (hkey : ∀ errand ∈ errands, Path.absoluteFrom base errand.path = key)
    (h : Served base key errands d shop log e) : Keeps e shop.disk := by
  by_cases hnobody : ∀ w ∈ shop.pool.writers, ∀ n, w.standing ≠ .holding key n
  · rw [h.idle hnobody]
    exact keeps_of_requests (.none e)
  · push Not at hnobody
    obtain ⟨w, hw, n, hholds⟩ := hnobody
    obtain ⟨i, hi⟩ := List.getElem?_of_mem hw
    obtain ⟨-, errand, rest, -, locked, reaches⟩ := h.of_holding hkey hi hholds
    exact keeps_of_reaches locked reaches

theorem Served.takesTurns (hkey : ∀ errand ∈ errands, Path.absoluteFrom base errand.path = key)
    (h : Served base key errands d shop log e) : TakesTurns errands d shop := by
  have hkeeps := h.keeps hkey
  refine ⟨?exclusive, ⟨log, e, h.before, h.logged, ?holder, ?idle⟩, ?kept, ?written⟩
  case exclusive =>
    intro i j v w k k' m n hi hj hv hw
    obtain ⟨rfl, -⟩ := h.of_holding hkey hi hv
    obtain ⟨rfl, -⟩ := h.of_holding hkey hj hw
    exact h.inOrder.sound.exclusive (hv ▸ Pool.getElem?_standings hi)
      (hw ▸ Pool.getElem?_standings hj)
  case holder =>
    intro i w k n hi hw
    obtain ⟨-, errand, rest, herrand, -, reaches⟩ := h.of_holding hkey hi hw
    exact ⟨errand, rest, herrand, reaches⟩
  case idle => exact fun hnobody => h.idle fun w hw n => hnobody w hw key n
  case kept => exact (keeps_of_requests h.before.requests).trans hkeeps
  case written =>
    intro i w written hi hrest
    obtain ⟨errand, between, content, p, herrand, hbetween, hputs, hread⟩ :=
      h.before.exists_readFile (h.logged i w written hi hrest)
    obtain ⟨q, hq⟩ := hkeeps.readable p _ hread
    exact ⟨errand, between, content, q, herrand, hbetween, hputs, hq⟩

/-- Paths have one lock exactly if they are spelled by the same steps from the root, with each `..`
that they have. So all spellings of a file without `..` have one lock, and no other spelling has it.
Calls through paths that have one lock take turns, and nothing is lost between them. -/
theorem spellings_take_turns (base : Path) :
    (∀ p q, Path.absoluteFrom base p = Path.absoluteFrom base q ↔
      Path.stepsFrom base p = Path.stepsFrom base q) ∧
    (∀ (d : Disk) p q x, d.workingDirectory = base.steps → ".." ∉ base.steps → d.Names p x →
      d.Names q x → ".." ∉ p.steps →
        (Path.absoluteFrom base p = Path.absoluteFrom base q ↔ ".." ∉ q.steps)) ∧
    ∀ key errands d shop, (∀ errand ∈ errands, Path.absoluteFrom base errand.path = key) →
      Relation.ReflTransGen (Step base) (start errands d) shop → TakesTurns errands d shop := by
  refine ⟨fun p q => Path.absoluteFrom_eq_iff_stepsFrom,
    fun d p q x hhere hbase hp hq => hp.absoluteFrom_eq_iff hq hhere hbase, ?_⟩
  intro key errands d shop hkey hsteps
  obtain ⟨log, e, hserved⟩ := served_of_steps hkey hsteps
  exact hserved.takesTurns hkey

end

theorem start_write {path : Path} (content : String) (hvalid : checkPath path = .ok ()) :
    Writer.start path (.write content) =
      ⟨⟨.ask (.inl .workingDirectory) fun reply =>
        leasing (Path.absoluteFrom reply path) (replaceContent path content), .apart, false⟩,
        path⟩ := by
  unfold Writer.start Request.task Output.write
  rw [hvalid]
  rfl

/-- Of two calls that spell one path in two ways the first is through. -/
theorem spellings_take_turns_oneFile :
    let errands : List Errand := [⟨⟨"f"⟩, .write "new"⟩, ⟨⟨"./f"⟩, .write "later"⟩]
    oneFile.Names ⟨"f"⟩ ["f"] ∧ oneFile.Names ⟨"./f"⟩ ["f"] ∧
      Path.absoluteFrom ⟨"/"⟩ ⟨"f"⟩ = Path.absoluteFrom ⟨"/"⟩ ⟨"./f"⟩ ∧
      ∃ shop, Relation.ReflTransGen (Step ⟨"/"⟩) (start errands oneFile) shop ∧
        shop.disk = oneFileReplaced ∧ TakesTurns errands oneFile shop := by
  intro errands
  obtain ⟨-, hsame, hturns⟩ := spellings_take_turns ⟨"/"⟩
  have hlocate : oneFile.locate ⟨"f"⟩ = .ok ⟨[], some "f", false⟩ := by rfl
  have hlocate' : oneFile.locate ⟨"./f"⟩ = .ok ⟨[], some "f", false⟩ := by rfl
  have hnames : oneFile.Names ⟨"f"⟩ ["f"] := ⟨[], "f", hlocate, by decide, rfl⟩
  have hnames' : oneFile.Names ⟨"./f"⟩ ["f"] := ⟨[], "f", hlocate', by decide, rfl⟩
  have hkey : Path.absoluteFrom ⟨"/"⟩ ⟨"f"⟩ = Path.absoluteFrom ⟨"/"⟩ ⟨"./f"⟩ :=
    (hsame oneFile _ _ _ (by decide) (by decide) hnames hnames' (by decide)).2 (by decide)
  have hkeys : ∀ errand ∈ errands,
      Path.absoluteFrom ⟨"/"⟩ errand.path = Path.absoluteFrom ⟨"/"⟩ ⟨"f"⟩ := by
    simp [errands, hkey]
  have hlease : Locks.lease default (Path.absoluteFrom ⟨"/"⟩ ⟨"f"⟩) =
      (0, ⟨(∅ : Std.ExtTreeMap String Nat).insert (Path.absoluteFrom ⟨"/"⟩ ⟨"f"⟩).text 0,
        [⟨1, false⟩]⟩) := rfl
  have hstart : start errands oneFile = ⟨⟨default, [.start ⟨"f"⟩ (.write "new"),
      .start ⟨"./f"⟩ (.write "later")]⟩, oneFile⟩ := rfl
  have hsteps : ∃ pool, Relation.ReflTransGen (Step ⟨"/"⟩) (start errands oneFile)
      ⟨pool, oneFileReplaced⟩ := by
    rw [hstart, start_write "new" (by decide)]
    refine ⟨_, .trans (steps_obtain (i := 0) rfl rfl Std.ExtTreeMap.getElem?_empty hlease)
      (.trans (steps_of_reaches (i := 0) rfl rfl (Script.Runs.reaches
        (runs_replaceContent_oneFile_ok (serves_attended ⟨"/"⟩))))
      (.single (.deal (i := 0) rfl rfl rfl rfl)))⟩
  obtain ⟨pool, hsteps⟩ := hsteps
  exact ⟨hnames, hnames', hkey, _, hsteps, rfl, hturns _ _ _ _ hkeys hsteps⟩

/-! ## Two calls at once -/

section TwoCalls

variable {path base : Path} {id : Uuid} {content : String} {d d' : Disk}

/-- The end of a writing to a missing file. -/
def moving (path : Path) (id : Uuid) (content : String) : Job Written := do
  Job.orElseRun (moveOver (temporaryPath path id) path) (discardBackup none)
  return ⟨path, none, content.toUTF8.size⟩

/-- What such a writing has still to do once the temporary file is there. -/
def landing (path : Path) (id : Uuid) (content : String) : Job Written :=
  Job.orElseRun (moving path id content) (Job.discard (temporaryPath path id))

theorem runs_checkCancelled_attended (path base : Path) (d : Disk) :
    Procedure.Runs (attended path base false) (checkCancelled path) d (.ok ()) d :=
  Procedure.runs_bind_ok.2
    ⟨false, d, Procedure.runs_ofScript_ok.2 (Script.runs_call.2 ⟨rfl, rfl⟩), rfl, rfl⟩

-- What the parent of the path is does not matter from here on, and unfolding it takes long.
attribute [local irreducible] Path.realParent?

theorem reaches_landing
    (parents : Procedure.Runs (attended path base false) (createParents path) d (.ok ()) d)
    (unused : d.Unused (temporaryPath path id))
    (write : d.writeFile (temporaryPath path id) content.toUTF8 = .ok d')
    (missing : d'.probe path = .ok false) :
    (replaceContent path content).run.Reaches (attended path base false) d
      (landing path id content).run d' := by
  have hid : Procedure.Runs (attended path base false) Job.freshId d (.ok id) d :=
    Procedure.runs_ofScript_ok.2 (Script.runs_call.2 ⟨unused, rfl⟩)
  have hwrite : Procedure.Runs (attended path base false)
      (Job.write (temporaryPath path id) content.toUTF8) d (.ok ()) d' :=
    Job.runs_ofDisk_ok.2 (Script.runs_call.2 write)
  have hbackup : Procedure.Runs (attended path base false) (backUpExisting path) d' (.ok none) d' :=
    Procedure.runs_bind_ok.2
      ⟨false, d', Job.runs_ofDisk_ok.2 (Script.runs_call.2 ⟨missing, rfl⟩), rfl, rfl⟩
  have hinstall : (install (temporaryPath path id) path content.toUTF8).run.Reaches
      (attended path base false) d (moving path id content).run d' :=
    (hwrite.reaches _).trans (hbackup.reaches _)
  refine ((runs_checkCancelled_attended path base d).reaches _).trans ?_
  refine (parents.reaches _).trans ((hid.reaches _).trans ?_)
  exact hinstall.bind _

theorem runs_landing (rename : d.rename (temporaryPath path id) path = .ok d') :
    Procedure.Runs (attended path base false) (landing path id content) d
      (.ok ⟨path, none, content.toUTF8.size⟩) d' := by
  have hmove : Procedure.Runs (attended path base false) (moveOver (temporaryPath path id) path) d
      (.ok ()) d' :=
    Procedure.runs_bind_ok.2 ⟨(), d, runs_checkCancelled_attended path base d,
      Job.runs_ofDisk_ok.2 (Script.runs_call.2 rename)⟩
  exact Job.runs_orElseRun_ok.2
    (Procedure.runs_bind_ok.2 ⟨(), d', Job.runs_orElseRun_ok.2 hmove, rfl, rfl⟩)

/-- A disk that holds one directory. -/
def oneDirectory : Disk :=
  (Disk.empty []).insert ["a"] .directory

theorem names_plain : oneDirectory.Names ⟨"f"⟩ ["f"] := by
  have hlocate : oneDirectory.locate ⟨"f"⟩ = .ok ⟨[], some "f", false⟩ := by rfl
  exact ⟨[], "f", hlocate, by decide, rfl⟩

theorem names_roundabout : oneDirectory.Names ⟨"a/../f"⟩ ["f"] := by
  have hlocate : oneDirectory.locate ⟨"a/../f"⟩ = .ok ⟨[], some "f", false⟩ := by rfl
  exact ⟨[], "f", hlocate, by decide, rfl⟩

/-- The temporary file of the call that is overtaken. -/
def overtakenName : String :=
  (temporaryPath ⟨"f"⟩ (.ofNumber 0)).text

def overtakingName : String :=
  (temporaryPath ⟨"f"⟩ (.ofNumber 1)).text

def overtakenStored : Disk :=
  oneDirectory.insert [overtakenName] (.file "v2".toUTF8)

def overtakingStored : Disk :=
  overtakenStored.insert [overtakingName] (.file "v1".toUTF8)

def overtakingMoved : Disk :=
  overtakenStored.insert ["f"] (.file "v1".toUTF8)

def overtakenMoved : Disk :=
  oneDirectory.insert ["f"] (.file "v2".toUTF8)

theorem reaches_overtaken :
    (replaceContent ⟨"a/../f"⟩ "v2").run.Reaches (attended ⟨"a/../f"⟩ ⟨"/"⟩ false) oneDirectory
      (landing ⟨"a/../f"⟩ (.ofNumber 0) "v2").run overtakenStored := by
  have hparent : Path.realParent? ⟨"a/../f"⟩ = some ⟨"a/.."⟩ := by decide +kernel
  have hparents : Procedure.Runs (attended ⟨"a/../f"⟩ ⟨"/"⟩ false) (createParents ⟨"a/../f"⟩)
      oneDirectory (.ok ()) oneDirectory := by
    have hcreated : oneDirectory.createDirectories ⟨"a/.."⟩ = (.ok (), oneDirectory) := by
      decide +kernel
    unfold createParents
    rw [hparent]
    exact Job.runs_ofDisk_ok.2 (Script.runs_call.2 hcreated)
  refine reaches_landing hparents ?_ (by decide +kernel) (by decide +kernel)
  exact fun x hx => Disk.eq_none_of_probe (by decide +kernel) hx

theorem runs_overtaking :
    Procedure.Runs (attended ⟨"f"⟩ ⟨"/"⟩ false) (replaceContent ⟨"f"⟩ "v1") overtakenStored
      (.ok ⟨⟨"f"⟩, none, 2⟩) overtakingMoved := by
  have hparent : Path.realParent? ⟨"f"⟩ = none := by decide +kernel
  have hlanding : Procedure.Runs (attended ⟨"f"⟩ ⟨"/"⟩ false) (landing ⟨"f"⟩ (.ofNumber 1) "v1")
      overtakingStored (.ok ⟨⟨"f"⟩, none, 2⟩) overtakingMoved := runs_landing (by decide +kernel)
  refine (reaches_landing (runs_createParents_of_none hparent) ?_ (by decide +kernel)
    (by decide +kernel)).runs hlanding
  exact fun x hx => Disk.eq_none_of_probe (by decide +kernel) hx

theorem exists_steps_overtaken : ∃ locks, Relation.ReflTransGen (Step ⟨"/"⟩)
    (start [⟨⟨"a/../f"⟩, .write "v2"⟩, ⟨⟨"f"⟩, .write "v1"⟩] oneDirectory)
    ⟨⟨locks, [⟨⟨.done (.ok ⟨⟨"a/../f"⟩, none, 2⟩), .apart, false⟩, ⟨"a/../f"⟩⟩,
      ⟨⟨.done (.ok ⟨⟨"f"⟩, none, 2⟩), .apart, false⟩, ⟨"f"⟩⟩]⟩, overtakenMoved⟩ := by
  have hvalid : checkPath ⟨"a/../f"⟩ = .ok () := by decide
  have hvalid' : checkPath ⟨"f"⟩ = .ok () := by decide
  have hkey : Path.absoluteFrom ⟨"/"⟩ ⟨"a/../f"⟩ = ⟨"/a/../f"⟩ := by decide
  have hkey' : Path.absoluteFrom ⟨"/"⟩ ⟨"f"⟩ = ⟨"/f"⟩ := by decide
  have hstart : start [⟨⟨"a/../f"⟩, .write "v2"⟩, ⟨⟨"f"⟩, .write "v1"⟩] oneDirectory =
      ⟨⟨default, [.start ⟨"a/../f"⟩ (.write "v2"), .start ⟨"f"⟩ (.write "v1")]⟩,
        oneDirectory⟩ := rfl
  rw [hstart, start_write "v2" hvalid, start_write "v1" hvalid']
  have hrename : overtakingMoved.rename (temporaryPath ⟨"a/../f"⟩ (.ofNumber 0)) ⟨"a/../f"⟩ =
      .ok overtakenMoved := by decide +kernel
  let first (rest : Script machine (Outcome Written)) : Writer :=
    ⟨⟨serving ⟨"/a/../f"⟩ 0 rest, .holding ⟨"/a/../f"⟩ 0, false⟩, ⟨"a/../f"⟩⟩
  let second (rest : Script machine (Outcome Written)) : Writer :=
    ⟨⟨serving ⟨"/f"⟩ 1 rest, .holding ⟨"/f"⟩ 1, false⟩, ⟨"f"⟩⟩
  let unstarted : Writer :=
    ⟨⟨.ask (.inl .workingDirectory) fun reply =>
      leasing (Path.absoluteFrom reply ⟨"f"⟩) (replaceContent ⟨"f"⟩ "v1"), .apart, false⟩, ⟨"f"⟩⟩
  let registry : Std.ExtTreeMap String Nat := (∅ : Std.ExtTreeMap String Nat).insert "/a/../f" 0
  let one : Locks := ⟨registry, [⟨1, true⟩]⟩
  let two : Locks := ⟨registry.insert "/f" 1, [⟨1, true⟩, ⟨1, true⟩]⟩
  have hlease : Locks.lease default ⟨"/a/../f"⟩ = (0, ⟨registry, [⟨1, false⟩]⟩) := rfl
  have hfree : one.registry["/f"]? = none := by simp [one, registry]
  have hlease' : Locks.lease one ⟨"/f"⟩ =
      (1, ⟨registry.insert "/f" 1, [⟨1, true⟩, ⟨1, false⟩]⟩) := by
    rw [Locks.lease, hfree]
    rfl
  let Steps (shop : Workshop) : Prop := Relation.ReflTransGen (Step ⟨"/"⟩) shop
    ⟨⟨(two.release ⟨"/f"⟩ 1 true).release ⟨"/a/../f"⟩ 0 true,
      [⟨⟨.done (.ok ⟨⟨"a/../f"⟩, none, 2⟩), .apart, false⟩, ⟨"a/../f"⟩⟩,
        ⟨⟨.done (.ok ⟨⟨"f"⟩, none, 2⟩), .apart, false⟩, ⟨"f"⟩⟩]⟩, overtakenMoved⟩
  refine ⟨(two.release ⟨"/f"⟩ 1 true).release ⟨"/a/../f"⟩ 0 true, ?_⟩
  refine .trans (steps_obtain (i := 0) rfl hkey Std.ExtTreeMap.getElem?_empty hlease) ?_
  change Steps ⟨⟨one, [first (replaceContent ⟨"a/../f"⟩ "v2").run, unstarted]⟩, oneDirectory⟩
  refine .trans (steps_of_reaches (i := 0) rfl rfl reaches_overtaken) ?_
  change Steps ⟨⟨one, [first (landing ⟨"a/../f"⟩ (.ofNumber 0) "v2").run, unstarted]⟩,
    overtakenStored⟩
  refine .trans (steps_obtain (i := 1) rfl hkey' hfree hlease') ?_
  change Steps ⟨⟨two, [first (landing ⟨"a/../f"⟩ (.ofNumber 0) "v2").run,
    second (replaceContent ⟨"f"⟩ "v1").run]⟩, overtakenStored⟩
  refine .trans (steps_of_reaches (i := 1) rfl rfl (Script.Runs.reaches runs_overtaking)) ?_
  change Steps ⟨⟨two, [first (landing ⟨"a/../f"⟩ (.ofNumber 0) "v2").run,
    second (.done (.ok ⟨⟨"f"⟩, none, 2⟩))]⟩, overtakingMoved⟩
  refine .head (.deal (i := 1) rfl rfl rfl rfl) ?_
  refine .trans (steps_of_reaches (i := 0) rfl rfl
    (Script.Runs.reaches (runs_landing hrename))) ?_
  refine .head (.deal (i := 0) rfl rfl rfl rfl) ?_
  exact .refl

/-- The first call finds no file and is overtaken by the second one before it moves its own over. -/
theorem version_lost_between_spellings :
    let base : Path := ⟨"/"⟩
    let p : Path := ⟨"a/../f"⟩
    let q : Path := ⟨"f"⟩
    checkPath p = .ok () ∧ checkPath q = .ok () ∧ oneDirectory.workingDirectory = base.steps ∧
      oneDirectory.Names p ["f"] ∧ oneDirectory.Names q ["f"] ∧
      Path.absoluteFrom base p ≠ Path.absoluteFrom base q ∧
      ∃ shop, Relation.ReflTransGen (Step base)
          (start [⟨p, .write "v2"⟩, ⟨q, .write "v1"⟩] oneDirectory) shop ∧
        shop.pool.writers = [⟨⟨.done (.ok ⟨p, none, 2⟩), .apart, false⟩, p⟩,
          ⟨⟨.done (.ok ⟨q, none, 2⟩), .apart, false⟩, q⟩] ∧
        shop.disk = oneDirectory.insert ["f"] (.file "v2".toUTF8) := by
  intro base p q
  have hp : checkPath p = .ok () := by decide
  have hq : checkPath q = .ok () := by decide
  have hkeys : Path.absoluteFrom base p ≠ Path.absoluteFrom base q := by decide
  obtain ⟨locks, hsteps⟩ := exists_steps_overtaken
  exact ⟨hp, hq, by decide, names_roundabout, names_plain, hkeys, _, hsteps, rfl, rfl⟩

end TwoCalls

end Workshop

end Output

end SchemaCodegen
