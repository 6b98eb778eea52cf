import SchemaCodegen.Proofs.Repository.Holding

/-!
# Repositories that answer at once

A repository in memory or in a file, each call of which is answered in one step, whoever else calls.
What both have in common is that they hold a document: a call is answered from it, or it fails and
the document stays as it was (`Storage.of_step`).
-/

namespace SchemaCodegen.Repository

inductive Storage where
  | memory
  | file (path : Path)

namespace Storage

/-- What the document is kept in. -/
def State : Storage → Type
  | memory => MetadataDocument
  | file _ => Disk

def step : (storage : Storage) → repository.Step storage.State
  | memory => fun call m reply m' => Memory.answer call m = (reply, m')
  | file path => fun call d reply d' =>
    ∃ failed, Script.Runs (File.watched path) (File.answer path call) (d, false) reply (d', failed)

def Holds : (storage : Storage) → storage.State → MetadataDocument → Prop
  | memory => fun s m => s = m
  | file path => File.Holds path

/-- What is written to a file has to be read again. -/
def Accepts : Storage → Call → Prop
  | memory, _ => True
  | file _, call => call.IsTimely

variable {storage : Storage} {s s' : storage.State} {m : MetadataDocument} {now : Instant}

theorem accepts_of_isTimely {call : Call} (h : call.IsTimely) : storage.Accepts call := by
  cases storage with
  | memory => trivial
  | file path => exact h

theorem of_step {call : Call} {reply : Reply call} (h : storage.Holds s m)
    (hcall : storage.Accepts call) (hstep : storage.step call s reply s') :
    (reply = (Memory.answer call m).1 ∧ storage.Holds s' (Memory.answer call m).2) ∨
      ((failure? call reply).isSome ∧ storage.Holds s' m) := by
  cases storage with
  | memory =>
    obtain rfl : s = m := h
    exact .inl ⟨(congrArg Prod.fst hstep).symm, (congrArg Prod.snd hstep).symm⟩
  | file path =>
    obtain ⟨failed, hruns⟩ := hstep
    rcases File.Holds.of_answer h hcall hruns with ⟨-, hreply, hholds⟩ | ⟨-, hfailure, hholds⟩
    · exact .inl ⟨hreply, hholds⟩
    · exact .inr ⟨hfailure, hholds⟩

/-- Stamps that were put are held, whatever was held before. -/
theorem holds_of_markGenerated {keys : List String} (hnow : now.IsSupported)
    (hstep : storage.step (.markGenerated keys now) s (.ok () : Outcome Unit) s') :
    ∃ before after : MetadataDocument,
      before.state.markAllGenerated keys now = .ok after.state ∧ storage.Holds s' after := by
  cases storage with
  | memory =>
    change MetadataDocument at s
    have hanswer : Memory.answer (.markGenerated keys now) s = (.ok (), s') := hstep
    rw [Memory.answer] at hanswer
    cases hmarks : s.state.markAllGenerated keys now with
    | error failure =>
      rw [hmarks] at hanswer
      cases hanswer
    | ok metadata =>
      rw [hmarks] at hanswer
      cases hanswer
      exact ⟨s, _, hmarks, rfl⟩
  | file path =>
    obtain ⟨failed, hruns⟩ := hstep
    exact File.of_markGenerated_ok hnow hruns

/-- What was loaded may be persisted. -/
theorem accepts_of_load {metadata : Metadata}
    (hstep : storage.step .load s (.ok metadata : Outcome Metadata) s') :
    storage.Accepts (.persist metadata) := by
  cases storage with
  | memory => trivial
  | file path =>
    obtain ⟨failed, hruns⟩ := hstep
    obtain ⟨document, t, hread, hdone⟩ := Procedure.runs_bind_ok.1 hruns
    obtain ⟨hstate, -⟩ := Procedure.runs_pure.1 hdone
    cases hstate
    exact (File.isTimely_of_readDocument hread).state

/-- What may be persisted still may once it has been synced. -/
theorem accepts_sync {metadata : Metadata} {fresh : RecordKey → Uuid}
    (h : storage.Accepts (.persist metadata)) (hnow : now.IsSupported) (snapshot : Snapshot) :
    storage.Accepts (.persist (metadata.sync fresh now snapshot).1) := by
  cases storage with
  | memory => trivial
  | file path => exact Metadata.IsTimely.sync h hnow snapshot

end Storage

end SchemaCodegen.Repository
