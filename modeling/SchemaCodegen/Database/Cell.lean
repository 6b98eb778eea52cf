import SchemaCodegen.Instant
import SchemaCodegen.Uuid

/-!
# Cells of rows

The values that rows and statements hold, and how a row of a known shape is read from its cells:
the columns of a table have names and kinds, and reading a row reads its cells in their order.
-/

namespace SchemaCodegen.Database

/-- A value in a row, or a parameter of a statement. -/
inductive Cell where
  | null
  | bool (value : Bool)
  | integer (value : Int32)
  | text (value : String)
  | id (value : Uuid)
  /-- A time in whole microseconds. -/
  | time (value : Instant)
  | texts (values : List String)
deriving DecidableEq, Repr

/-- A value that may be missing. -/
def Cell.ofOption {α : Type} (f : α → Cell) : Option α → Cell
  | none => .null
  | some a => f a

/-- What the cells of a column hold. -/
inductive CellKind where
  | bool
  | integer
  | text
  | id
  | time
deriving DecidableEq, Repr

/-- Columns that follow one another in a row, and how their cells are read. -/
structure Columns (α : Type) where
  columns : List (String × CellKind)
  read : List Cell → Option α

namespace Columns

variable {α β : Type}

def pure (a : α) : Columns α :=
  ⟨[], fun _ => some a⟩

/-- Both runs of columns, one behind the other. -/
def and (f : Columns (α → β)) (x : Columns α) : Columns β where
  columns := f.columns ++ x.columns
  read cells := do
    let g ← f.read (cells.take f.columns.length)
    return g (← x.read (cells.drop f.columns.length))

instance : Applicative Columns where
  pure := Columns.pure
  seq f x := Columns.and f (x ())

/-- One column. -/
def one (kind : CellKind) (ofCell : Cell → Option α) (name : String) : Columns α where
  columns := [(name, kind)]
  read
    | [cell] => ofCell cell
    | _ => none

def bool : String → Columns Bool :=
  one .bool fun
    | .bool b => some b
    | _ => none

def integer : String → Columns Int32 :=
  one .integer fun
    | .integer n => some n
    | _ => none

def text : String → Columns String :=
  one .text fun
    | .text s => some s
    | _ => none

def id : String → Columns Uuid :=
  one .id fun
    | .id i => some i
    | _ => none

def time : String → Columns Instant :=
  one .time fun
    | .time t => some t
    | _ => none

/-- A column whose cells may be null. -/
def nullable (column : Columns α) : Columns (Option α) where
  columns := column.columns
  read
    | [.null] => some none
    | cells => (column.read cells).map some

end Columns

end SchemaCodegen.Database
