import SchemaCodegen.Output.Writer
import SchemaCodegen.Proofs.Disk.Directories
import SchemaCodegen.Proofs.Script.Jobs

/-!
# Machines on which operations fail

On a `faulty` machine every operation on the disk may fail, and the caller may go away at any
time. What works does what the disk's own operation does. What fails leaves the disk as it was,
but for directories that were created on the way and for files that were written in part. Whether
files can be removed is left open (`removes`); an identity that is given out belongs to no
temporary file.
-/

namespace SchemaCodegen

namespace Disk

/-- No entry has the path as its name. -/
def Unused (d : Disk) (p : Path) : Prop :=
  ∀ x, d.Names p x → d.entry? x = none

/-- What is left where a file was to be written and that failed: any part of it, or nothing. -/
def PartlyWritten (p : Path) (d d' : Disk) : Prop :=
  d' = d ∨ ∃ part, d.writeFile p part = .ok d'

/-- An operation worked and had its result, or it failed and left one of some disks. -/
def Tried (result : Except Fault Disk) (left : Disk → Prop) (reply : Except Fault Unit)
    (d' : Disk) : Prop :=
  match reply with
  | .ok _ => result = .ok d'
  | .error _ => left d'

/-- A question about the disk was answered truly, or it failed. -/
def Told {α : Type} (result reply : Except Fault α) : Prop :=
  match reply with
  | .ok _ => result = reply
  | .error _ => True

end Disk

namespace Output

open Disk (Fault Tried Told PartlyWritten)

/-- What may happen on a machine that writes a path. -/
def faulty (path : Path) (removes : Bool) : machine.Step Disk
  | .createDirectories p, d, reply, d' =>
    match (reply : Except Fault Unit) with
    | .ok _ => d.createDirectories p = (.ok (), d')
    | .error _ => d.Makes (fun q => q = p ∨ p.Above q) d'
  | .write p content, d, reply, d' => Tried (d.writeFile p content) (PartlyWritten p d) reply d'
  | .read p, d, reply, d' => Told (d.readFile p) reply ∧ d' = d
  | .probe p, d, reply, d' => Told (d.probe p) reply ∧ d' = d
  | .copy p q, d, reply, d' => Tried (d.copyFile p q) (PartlyWritten q d) reply d'
  | .rename p q, d, reply, d' => Tried (d.rename p q) (· = d) reply d'
  | .remove p, d, reply, d' =>
    Tried (d.removeFile p)
      (fun d' => d' = d ∧ (removes = true → ∀ removed, d.removeFile p ≠ .ok removed)) reply d'
  | .list p, d, reply, d' => Told (d.listDirectory p) reply ∧ d' = d
  | .freshId, d, id, d' => d.Unused (temporaryPath path id) ∧ d' = d
  | .workingDirectory, d, _, d' => d' = d
  | .clock, d, _, d' => d' = d
  | .freshIds _, d, _, d' => d' = d
  | .isCancelled, d, _, d' => d' = d

/-- Locks leave the disk alone, whoever else holds them. -/
def faultyTask (path : Path) (removes : Bool) : writing.Step Disk :=
  Interface.Step.sum (faulty path removes) fun _ d _ d' => d' = d

theorem stays_of_partlyWritten {p : Path} {d d' : Disk} (h : PartlyWritten p d d') :
    Disk.Stays d d' := by
  rcases h with rfl | ⟨part, hwrite⟩
  · exact .refl d'
  · exact Disk.stays_of_writeFile hwrite

/-- Whatever works and whatever fails, no directory is lost. -/
theorem stays_of_faulty {path : Path} {removes : Bool} {call : Machine.Call} {d d' : Disk}
    {reply : Machine.Reply call} (h : faulty path removes call d reply d') : Disk.Stays d d' := by
  have hsame : d' = d → Disk.Stays d d' := by
    rintro rfl
    exact .refl d'
  cases call with
  | read p => exact hsame h.2
  | probe p => exact hsame h.2
  | list p => exact hsame h.2
  | freshId => exact hsame h.2
  | workingDirectory => exact hsame h
  | clock => exact hsame h
  | freshIds keys => exact hsame h
  | isCancelled => exact hsame h
  | createDirectories p =>
    cases reply with
    | ok _ =>
      have hcreated : d.createDirectories p = (.ok (), d') := h
      exact (Disk.Makes.of_createDirectories hcreated).stays
    | error fault => exact Disk.Makes.stays h
  | write p content =>
    cases reply with
    | ok _ => exact Disk.stays_of_writeFile h
    | error fault => exact stays_of_partlyWritten h
  | copy p q =>
    cases reply with
    | ok _ =>
      obtain ⟨content, -, hwrite⟩ := Disk.copyFile_iff.1 h
      exact Disk.stays_of_writeFile hwrite
    | error fault => exact stays_of_partlyWritten h
  | rename p q =>
    cases reply with
    | ok _ => exact Disk.stays_of_rename h
    | error fault => exact hsame h
  | remove p =>
    cases reply with
    | ok _ => exact Disk.stays_of_removeFile h
    | error fault => exact hsame h.1

end Output

end SchemaCodegen
