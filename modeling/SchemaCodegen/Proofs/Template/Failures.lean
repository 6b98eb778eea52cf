import SchemaCodegen.Proofs.Template.Preloading

/-!
# What an engine fails with

Rendering and preloading refuse a name and data before anything is asked (`Engine.Refuses`), and
whatever else goes wrong is a failure to render that carries what reading the template or evaluating
it failed of (`Engine.Surfaces`), on any machine and with any cache. Preloading everything looks for
the files first, and a fault of a directory comes out as it is: the failure is a bare fault of the
disk exactly if the walk fails (`Engine.failures_surface`).
-/

namespace SchemaCodegen.Template

namespace Engine

/-- An unusable name is an invalid argument. -/
def RefusesName (name : String) (failure : Failure) : Prop :=
  Name.normalize name = .error failure ∧ ∃ text, failure = .invalidArgument text

theorem refusesName_of_normalize {name : String} {failure : Failure}
    (h : Name.normalize name = .error failure) : RefusesName name failure := by
  refine ⟨h, ?_⟩
  unfold Name.normalize at h
  dsimp only at h
  split at h
  · cases h
    exact ⟨_, rfl⟩
  · split at h
    · cases h
      exact ⟨_, rfl⟩
    · cases h

/-- A walk fails of what the disk answers. -/
theorem failsOnly_namesBelow {σ : Type} {step : machine.Step σ} (depth : Nat)
    (parents : List String) (directory : Path) :
    Procedure.FailsOnly step (fun failure => ∃ fault, failure = .io fault)
      (namesBelow depth parents directory) := by
  induction depth generalizing parents directory with
  | zero =>
    refine Procedure.FailsOnly.throw ?_
    exact ⟨_, rfl⟩
  | succ depth ih =>
    rw [namesBelow_succ]
    refine .bind ?_ fun entries => .bind (.mapM ?_ entries) fun names => .pure _
    · intro s failure s' h
      obtain ⟨fault, hfault, -⟩ := Job.runs_ofDisk_error.1 h
      exact ⟨fault, hfault⟩
    · rintro ⟨name, isDirectory⟩
      cases isDirectory with
      | true => exact ih _ _
      | false =>
        simp only [namesAt, Bool.false_eq_true, if_false]
        cases templateName? name with
        | none => exact .pure _
        | some stem => exact .pure _

-- Neither what names come to nor what a rendering asks matters here, and both take long to unfold.
attribute [local irreducible] Name.normalize Template.render namesBelow

/-- What a rendering is refused for before anything is asked: the name, or else data that cannot be
made JSON, or null. -/
inductive Refuses (name : String) : Option Json → Failure → Prop where
  | name {data? : Option Json} {failure : Failure} (h : RefusesName name failure) :
      Refuses name data? failure
  | unserializable {key : String} (h : Name.normalize name = .ok key) :
      Refuses name none (.render key .unserializable)
  | null {key : String} (h : Name.normalize name = .ok key) :
      Refuses name (some .null) (missingData key)

variable {σ : Type} {step : engine.Step σ} {root : Path} {name key : String} {failure : Failure}
  {s s' : σ}

/-- The file of a template cannot be read, or what is read is no template. -/
def Unread (step : engine.Step σ) (root : Path) (key : String) (cause : Cause) : Prop :=
  ∃ t t', (ofMachine (read root key)).Runs step t (.error cause) t'

/-- What a rendering fails of: the reading of the template, or its evaluation with the data. -/
inductive Causes (step : engine.Step σ) (root : Path) (data? : Option Json) (key : String) :
    Cause → Prop where
  | reading {cause : Cause} (h : Unread step root key cause) : Causes step root data? key cause
  | evaluating {template : Template} {data : Json} {cell : Nat} {fault : Fault} {t t' : σ}
      (hdata : data? = some data) (h : (Script.interpret (I := templates) (obtainNamed root cell)
        (Template.render template data)).Runs step t (.error fault) t') :
      Causes step root data? key (.evaluation fault)

/-- The failure to render the template of a name, with one of these causes. -/
def Surfaces (causes : String → Cause → Prop) (name : String) (failure : Failure) : Prop :=
  ∃ key cause, Name.normalize name = .ok key ∧ failure = .render key cause ∧ causes key cause

/-- Looks for the names of all templates. -/
def walk (root : Path) : Script engine (Outcome (List String)) :=
  ofMachine (namesBelow depthLimit [] root).run

theorem of_obtain_error (h : (obtain root key).Runs step s (.error failure) s') :
    ∃ cause, failure = .render key cause ∧ Unread step root key cause := by
  obtain ⟨cell, told, -, h⟩ := Script.runs_bind.1 h
  obtain ⟨template?, started, -, h⟩ := Script.runs_bind.1 h
  cases template? with
  | some template => cases (Script.runs_pure.1 h).1
  | none =>
    obtain ⟨result, left, hread, h⟩ := Script.runs_bind.1 h
    cases result with
    | ok template =>
      obtain ⟨-, filled, -, h⟩ := Script.runs_bind.1 h
      cases (Script.runs_pure.1 h).1
    | error cause =>
      obtain ⟨-, emptied, -, h⟩ := Script.runs_bind.1 h
      obtain ⟨-, dropped, -, h⟩ := Script.runs_bind.1 h
      cases (Script.runs_pure.1 h).1
      exact ⟨cause, rfl, _, _, hread⟩

theorem of_render_error {data : Json} (hname : Name.normalize name = .ok key)
    (hdata : isNull data = false) (h : (render root name data).Runs step s (.error failure) s') :
    ∃ cause, failure = .render key cause ∧ Causes step root (some data) key cause := by
  unfold render at h
  rw [hname] at h
  dsimp only at h
  rw [hdata, if_neg Bool.false_ne_true] at h
  obtain ⟨obtained, between, hobtain, h⟩ := Script.runs_bind.1 h
  cases obtained with
  | error failure =>
    cases (Script.runs_pure.1 h).1
    obtain ⟨cause, hfailure, hcause⟩ := of_obtain_error hobtain
    exact ⟨cause, hfailure, .reading hcause⟩
  | ok obtained =>
    obtain ⟨cell, template⟩ := obtained
    obtain ⟨result, after, hrender, h⟩ := Script.runs_bind.1 h
    cases result with
    | ok text => cases (Script.runs_pure.1 h).1
    | error fault =>
      cases (Script.runs_pure.1 h).1
      exact ⟨_, rfl, .evaluating rfl hrender⟩

theorem renderValue_of_refuses {data? : Option Json} (h : Refuses name data? failure) :
    renderValue root name data? = pure (.error failure) := by
  unfold renderValue
  cases h with
  | name hname =>
    cases data? with
    | none =>
      dsimp only
      rw [hname.1]
    | some data =>
      dsimp only
      unfold render
      rw [hname.1]
  | unserializable hname =>
    dsimp only
    rw [hname]
  | null hname =>
    dsimp only
    unfold render
    rw [hname]
    rfl

theorem preload_of_refusesName (h : RefusesName name failure) :
    preload root name = pure (.error failure) := by
  unfold preload
  rw [h.1]

theorem eq_null_of_isNull {data : Json} (h : isNull data = true) : data = .null := by
  cases data <;> first | rfl | cases h

theorem of_renderValue_error {data? : Option Json}
    (h : (renderValue root name data?).Runs step s (.error failure) s') :
    Refuses name data? failure ∨ Surfaces (Causes step root data?) name failure := by
  -- What is refused is refused at once, with one failure.
  have hrefuses : ∀ {refusal}, Refuses name data? refusal → Refuses name data? failure := by
    intro refusal hrefusal
    rw [renderValue_of_refuses hrefusal] at h
    cases (Script.runs_pure.1 h).1
    exact hrefusal
  cases hname : Name.normalize name with
  | error refusal => exact .inl (hrefuses (.name (refusesName_of_normalize hname)))
  | ok key =>
    cases data? with
    | none => exact .inl (hrefuses (.unserializable hname))
    | some data =>
      cases hnull : isNull data with
      | true =>
        cases eq_null_of_isNull hnull
        exact .inl (hrefuses (.null hname))
      | false =>
        obtain ⟨cause, hfailure, hcause⟩ := of_render_error hname hnull h
        exact .inr ⟨key, cause, hname, hfailure, hcause⟩

theorem of_preload_error (h : (preload root name).Runs step s (.error failure) s') :
    RefusesName name failure ∨ Surfaces (Unread step root) name failure := by
  unfold preload at h
  cases hname : Name.normalize name with
  | error refusal =>
    rw [hname] at h
    cases (Script.runs_pure.1 h).1
    exact .inl (refusesName_of_normalize hname)
  | ok key =>
    rw [hname] at h
    obtain ⟨obtained, between, hobtain, h⟩ := Script.runs_bind.1 h
    cases obtained with
    | ok obtained => cases (Script.runs_pure.1 h).1
    | error failure =>
      cases (Script.runs_pure.1 h).1
      obtain ⟨cause, hfailure, hcause⟩ := of_obtain_error hobtain
      exact .inr ⟨key, cause, hname, hfailure, hcause⟩

/-! ## Preloading everything -/

theorem of_walk_error (h : (walk root).Runs step s (.error failure) s') :
    ∃ fault, failure = .io fault :=
  failsOnly_namesBelow depthLimit [] root _ _ _ (Script.runs_left.1 h)

theorem of_preloadEach_error {names : List String}
    (h : (preloadEach root names).Runs step s (.error failure) s') :
    ∃ name ∈ names, RefusesName name failure ∨ Surfaces (Unread step root) name failure := by
  induction names generalizing s with
  | nil => cases (Script.runs_pure.1 h).1
  | cons name names ih =>
    obtain ⟨first, between, hfirst, h⟩ := Script.runs_bind.1 h
    cases first with
    | error failure =>
      cases (Script.runs_pure.1 h).1
      exact ⟨name, List.mem_cons_self, of_preload_error hfirst⟩
    | ok =>
      obtain ⟨name', hname', hfails⟩ := ih h
      exact ⟨name', List.mem_cons_of_mem _ hname', hfails⟩

/-- Where directories cannot be gone through, that is the failure. -/
theorem preloadAll_of_walk_error (h : (walk root).Runs step s (.error failure) s') :
    (preloadAll root).Runs step s (.error failure) s' :=
  Script.runs_bind.2 ⟨_, s', h, rfl, rfl⟩

theorem of_preloadAll_error (h : (preloadAll root).Runs step s (.error failure) s') :
    (walk root).Runs step s (.error failure) s' ∨
      ∃ names t, (walk root).Runs step s (.ok names) t ∧
        ∃ name ∈ names, RefusesName name failure ∨ Surfaces (Unread step root) name failure := by
  obtain ⟨found, between, hwalk, h⟩ := Script.runs_bind.1 h
  cases found with
  | error failure =>
    obtain ⟨houtcome, rfl⟩ := Script.runs_pure.1 h
    cases houtcome
    exact .inl hwalk
  | ok names =>
    obtain ⟨each, after, heach, h⟩ := Script.runs_bind.1 h
    cases each with
    | ok => cases (Script.runs_pure.1 h).1
    | error failure =>
      cases (Script.runs_pure.1 h).1
      obtain ⟨name, hname, hfails⟩ := of_preloadEach_error heach
      have hperm := List.mergeSort_perm names fun a b => !(b < a)
      exact .inr ⟨names, between, hwalk, name, hperm.mem_iff.1 hname, hfails⟩

theorem preloadAll_io_iff {fault : Disk.Fault} :
    (preloadAll root).Runs step s (.error (.io fault)) s' ↔
      (walk root).Runs step s (.error (.io fault)) s' := by
  refine ⟨fun h => ?_, preloadAll_of_walk_error⟩
  rcases of_preloadAll_error h with hwalk | ⟨names, t, -, name, -, hrefused | hsurfaces⟩
  · exact hwalk
  · obtain ⟨-, text, htext⟩ := hrefused
    cases htext
  · obtain ⟨key, cause, -, hfailure, -⟩ := hsurfaces
    cases hfailure

/-- On a machine without faults, the walk fails where some directory cannot be listed. -/
theorem io_iff_not_isListable (world : World) (cache : Cache) :
    (∃ fault, (runAlone (preloadAll root) world cache).1 = .error (.io fault)) ↔
      ¬ IsListable world.disk.listDirectory depthLimit root := by
  rcases hrun : runAlone (preloadAll root) world cache with ⟨outcome, world', cache'⟩
  have hruns := runs_offering (offers_world world) hrun
  constructor
  · rintro ⟨fault, hfault⟩ hlistable
    cases hfault
    have hwalk : Procedure.Runs (browsing world.disk.listDirectory world.disk.readFile)
        (namesBelow depthLimit [] root) cache (.error (.io fault)) cache' :=
      Script.runs_left.1 (preloadAll_io_iff.1 hruns)
    cases (runs_namesBelow_unique hwalk (runs_namesBelow_ok.2 ⟨hlistable, rfl, rfl⟩)).1
  · intro hlistable
    obtain ⟨found, between, hwalk, h⟩ := Script.runs_bind.1 hruns
    cases found with
    | ok names =>
      have hnames : Procedure.Runs (browsing world.disk.listDirectory world.disk.readFile)
          (namesBelow depthLimit [] root) cache (.ok names) between := Script.runs_left.1 hwalk
      exact absurd (runs_namesBelow_ok.1 hnames).1 hlistable
    | error failure =>
      obtain ⟨fault, rfl⟩ := of_walk_error hwalk
      exact ⟨fault, (Script.runs_pure.1 h).1.symm⟩

/-- On any machine and with any cache, rendering and preloading a template fail in two ways only: a
name or data that are refused are refused before anything is asked, and any other failure is one to
render the template that carries what reading or evaluating it failed of. Preloading everything
fails of a bare fault of the disk exactly if the walk through the directories does, which on a
machine without faults is where one of them cannot be listed; and else in the way that preloading
one of the names found does. -/
theorem failures_surface (step : engine.Step σ) (root : Path) :
    (∀ name data? failure, Refuses name data? failure →
      renderValue root name data? = pure (.error failure)) ∧
    (∀ name data? failure s s', (renderValue root name data?).Runs step s (.error failure) s' →
      Refuses name data? failure ∨ Surfaces (Causes step root data?) name failure) ∧
    (∀ name failure, RefusesName name failure → preload root name = pure (.error failure)) ∧
    (∀ name failure s s', (preload root name).Runs step s (.error failure) s' →
      RefusesName name failure ∨ Surfaces (Unread step root) name failure) ∧
    (∀ fault s s', (preloadAll root).Runs step s (.error (.io fault)) s' ↔
      (walk root).Runs step s (.error (.io fault)) s') ∧
    (∀ failure s s', (preloadAll root).Runs step s (.error failure) s' →
      (∃ fault, failure = .io fault) ∨ ∃ names t, (walk root).Runs step s (.ok names) t ∧
        ∃ name ∈ names, RefusesName name failure ∨ Surfaces (Unread step root) name failure) ∧
    ∀ world cache, (∃ fault, (runAlone (preloadAll root) world cache).1 = .error (.io fault)) ↔
      ¬ IsListable world.disk.listDirectory depthLimit root := by
  refine ⟨fun _ _ _ => renderValue_of_refuses, fun _ _ _ _ _ => of_renderValue_error,
    fun _ _ => preload_of_refusesName, fun _ _ _ _ => of_preload_error,
    fun _ _ _ => preloadAll_io_iff, fun failure s s' h => ?_, io_iff_not_isListable⟩
  rcases of_preloadAll_error h with hwalk | hfound
  · exact .inl (of_walk_error hwalk)
  · exact .inr hfound

end Engine

namespace Misspelled

/-- The machine and the cache of `runAlone`. -/
def alone : engine.Step (World × Cache) :=
  .ofAnswer (Script.answerSum World.answer Cache.answer)

theorem runs_runAlone {α : Type} (script : Script engine α) (world : World) (cache : Cache) :
    script.Runs alone (world, cache) (runAlone script world cache).1
      (runAlone script world cache).2 :=
  Script.runs_ofAnswer.2 rfl

theorem normalize_U : Name.normalize "U" = .ok "U" :=
  Name.normalize_eq_ok (by decide) (by decide) (by decide)

/-- A blank name, null data, and a template that is not there under its name. -/
theorem failures_surface_capitals :
    Engine.preload root " " = pure (.error (.invalidArgument "Template name must not be empty")) ∧
    Engine.renderValue root "U" (some .null) = pure (.error (Engine.missingData "U")) ∧
    (runAlone (Engine.preload root "U") capitals default).1 =
      .error (.render "U" (.notFound ⟨"templates/U.j2"⟩)) ∧
    Engine.Surfaces (Engine.Unread alone root) "U"
      (.render "U" (.notFound ⟨"templates/U.j2"⟩)) := by
  obtain ⟨hrefused, -, hname, hpreload, -⟩ := Engine.failures_surface alone root
  have hblank : Name.normalize " " =
      .error (.invalidArgument "Template name must not be empty") := by
    decide
  have hmissing : (runAlone (Engine.preload root "U") capitals default).1 =
      .error (.render "U" (.notFound ⟨"templates/U.j2"⟩)) := by
    decide +kernel
  have hruns := runs_runAlone (Engine.preload root "U") capitals default
  rw [hmissing] at hruns
  refine ⟨hname _ _ ⟨hblank, _, rfl⟩, hrefused _ _ _ (.null normalize_U), hmissing, ?_⟩
  rcases hpreload "U" _ _ _ hruns with ⟨hrefusal, -⟩ | hsurfaces
  · cases normalize_U.symm.trans hrefusal
  · exact hsurfaces

/-- Without a root, preloading everything fails of a bare fault of the disk. -/
theorem bare_fault_without_root :
    (runAlone (Engine.preloadAll root) default default).1 = .error (.io .notFound) := by
  decide +kernel

end Misspelled

end SchemaCodegen.Template
