import Std.Data.ExtTreeMap
import SchemaCodegen.Script
import SchemaCodegen.Template.Tree

/-!
# The template cache

Templates that were read once are kept. Each name has a slot, and each slot a cell that one
caller at a time may fill while the others wait for it. A cell also keeps the templates that its
template named. A slot that is dropped from the cache leaves its cell to those who still use it.
-/

namespace SchemaCodegen.Template

inductive Cell where
  | empty
  /-- A caller is reading the template. -/
  | busy
  /-- The template, and behind it those that it named. -/
  | ready (main : Template) (named : List Template)
deriving Inhabited

namespace Cell

def isReady : Cell → Bool
  | .ready _ _ => true
  | _ => false

def isBusy : Cell → Bool
  | .busy => true
  | _ => false

/-- The template of a cell. -/
def main? : Cell → Option Template
  | .ready main _ => some main
  | _ => none

/-- A template of the cell by its name. -/
def find? (name : String) : Cell → Option Template
  | .ready main named => (main :: named).find? (·.name == name)
  | _ => none

/-- The cell with one more template that was named. -/
def add (template : Template) : Cell → Cell
  | .ready main named => .ready main (named ++ [template])
  | cell => cell

end Cell

/-- The cells that were ever created, and which of them are in use under which name. -/
structure Cache where
  slots : Std.ExtTreeMap String Nat
  cells : List Cell

instance : Inhabited Cache := ⟨∅, []⟩

namespace Cache

inductive Call where
  /-- The cell of a name; an empty one is created if there is none. -/
  | slot (name : String)
  /-- The template of a cell, or leave to read it. Waits while another caller reads it. -/
  | start (cell : Nat)
  /-- The template was read. -/
  | fill (cell : Nat) (template : Template)
  /-- The template could not be read. -/
  | abandon (cell : Nat)
  /-- Drops the slot of a name, if it still has this cell and the cell is not filled. -/
  | discard (name : String) (cell : Nat)
  /-- A template of a cell by its name. -/
  | find (cell : Nat) (name : String)
  /-- Adds a template that was named to a cell. -/
  | add (cell : Nat) (template : Template)
  | clear
  | count

def Reply : Call → Type
  | .slot _ => Nat
  | .start _ => Option Template
  | .fill _ _ => Unit
  | .abandon _ => Unit
  | .discard _ _ => Unit
  | .find _ _ => Option Template
  | .add _ _ => Unit
  | .clear => Unit
  | .count => Nat

end Cache

/-- What may be asked of a template cache. -/
def caching : Interface where
  Call := Cache.Call
  Reply := Cache.Reply

namespace Cache

def cell (cache : Cache) (n : Nat) : Cell :=
  (cache.cells[n]?).getD .empty

def setCell (cache : Cache) (n : Nat) (cell : Cell) : Cache :=
  { cache with cells := cache.cells.set n cell }

/-- The cell of a name, created if there is none. -/
def slot (cache : Cache) (name : String) : Nat × Cache :=
  match cache.slots[name]? with
  | some n => (n, cache)
  | none =>
    let n := cache.cells.length
    (n, ⟨cache.slots.insert name n, cache.cells ++ [.empty]⟩)

/-- Drops the slot of a failed reading. -/
def discard (cache : Cache) (name : String) (n : Nat) : Cache :=
  if cache.slots[name]? = some n ∧ (cache.cell n).isReady = false then
    { cache with slots := cache.slots.erase name }
  else cache

/-- How many names have a template. -/
def count (cache : Cache) : Nat :=
  (cache.slots.toList.filter fun (_, n) => (cache.cell n).isReady).length

/-- Whether a caller gets an answer now and need not wait. -/
def isOpen (cache : Cache) : Call → Bool
  | .start n => !(cache.cell n).isBusy
  | _ => true

/-- The answer to a caller who need not wait. -/
def answer : (call : Call) → Cache → Reply call × Cache
  | .slot name, cache => cache.slot name
  | .start n, cache =>
    match (cache.cell n).main? with
    | some template => (some template, cache)
    | none => (none, cache.setCell n .busy)
  | .fill n template, cache => ((), cache.setCell n (.ready template []))
  | .abandon n, cache => ((), cache.setCell n .empty)
  | .discard name n, cache => ((), cache.discard name n)
  | .find n name, cache => ((cache.cell n).find? name, cache)
  | .add n template, cache => ((), cache.setCell n ((cache.cell n).add template))
  | .clear, cache => ((), { cache with slots := ∅ })
  | .count, cache => (cache.count, cache)

end Cache

end SchemaCodegen.Template
