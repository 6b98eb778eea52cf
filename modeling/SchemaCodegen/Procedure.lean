import SchemaCodegen.Failure
import SchemaCodegen.Script

/-!
# Procedures

A procedure is a script that may fail. After a failure nothing more is asked, except by those who
clean up.
-/

namespace SchemaCodegen

abbrev Procedure (I : Interface) (α : Type) := ExceptT Failure (Script I) α

namespace Procedure

variable {I J : Interface} {α : Type}

/-- The procedure that asks nothing and has a given outcome. -/
def ofOutcome (outcome : Outcome α) : Procedure I α :=
  ExceptT.mk (pure outcome)

/-- A script that does not fail by itself. -/
def ofScript (script : Script I α) : Procedure I α :=
  ExceptT.lift script

/-- A procedure as one of a larger interface. -/
def left (p : Procedure I α) : Procedure (I.sum J) α :=
  ExceptT.mk (Script.left p.run)

def right (p : Procedure J α) : Procedure (I.sum J) α :=
  ExceptT.mk (Script.right p.run)

end Procedure

end SchemaCodegen
