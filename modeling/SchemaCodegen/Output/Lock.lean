import Std.Data.ExtTreeMap
import SchemaCodegen.Disk.Path
import SchemaCodegen.Script

/-!
# Path locks

Writers of one path take turns. A writer leases the lock of its path, waits until it holds it,
and gives it back; a lock is registered under its path exactly as long as it is leased.
-/

namespace SchemaCodegen.Output

/-- A lock: how many leases it has, and which of them holds it. -/
structure Lock where
  leases : Nat
  held : Bool
deriving DecidableEq, Repr, Inhabited

/-- The locks that were ever created, and which of them is registered for a path. -/
structure Locks where
  registry : Std.ExtTreeMap String Nat
  locks : List Lock

instance : Inhabited Locks := ⟨∅, []⟩

namespace Locks

inductive Call where
  /-- Leases the lock of a path, which is created if none is registered. -/
  | lease (path : Path)
  /-- Waits for a leased lock. -/
  | hold (lock : Nat)
  /-- Gives a lease back, and the lock with it if it is held. -/
  | release (path : Path) (lock : Nat) (isHeld : Bool)

def Reply : Call → Type
  | .lease _ => Nat
  | .hold _ => Unit
  | .release _ _ _ => Unit

end Locks

/-- What writers ask about locks. -/
def locking : Interface where
  Call := Locks.Call
  Reply := Locks.Reply

namespace Locks

def lock (locks : Locks) (n : Nat) : Lock :=
  (locks.locks[n]?).getD ⟨0, false⟩

def lease (locks : Locks) (path : Path) : Nat × Locks :=
  match locks.registry[path.text]? with
  | some n => (n, { locks with locks := locks.locks.modify n fun l => ⟨l.leases + 1, l.held⟩ })
  | none =>
    let n := locks.locks.length
    (n, ⟨locks.registry.insert path.text n, locks.locks ++ [⟨1, false⟩]⟩)

def hold (locks : Locks) (n : Nat) : Locks :=
  { locks with locks := locks.locks.modify n fun l => ⟨l.leases, true⟩ }

/-- One lease less. The registration goes if nobody leases the lock that is registered then. -/
def release (locks : Locks) (path : Path) (n : Nat) (isHeld : Bool) : Locks :=
  let after : Locks :=
    { locks with locks := locks.locks.modify n fun l => ⟨l.leases - 1, l.held && !isHeld⟩ }
  let isLast := (locks.registry[path.text]?).any fun m => (after.lock m).leases == 0
  ⟨if isLast then locks.registry.erase path.text else locks.registry, after.locks⟩

/-- Whether a caller gets an answer now and need not wait. -/
def isOpen (locks : Locks) : Call → Bool
  | .hold n => !(locks.lock n).held
  | _ => true

/-- The answer to a caller who need not wait. -/
def answer : (call : Call) → Locks → Reply call × Locks
  | .lease path, locks => locks.lease path
  | .hold n, locks => ((), locks.hold n)
  | .release path n isHeld, locks => ((), locks.release path n isHeld)

end Locks

end SchemaCodegen.Output
