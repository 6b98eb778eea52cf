/-!
# Faults of settings

Why settings cannot be used: one that is needed is missing, or one has a value that cannot be
read.
-/

namespace SchemaCodegen.Settings

inductive Fault where
  /-- A variable that has to be set is not. -/
  | missing (name : String)
  | invalid (text : String)
deriving DecidableEq, Repr, Inhabited

namespace Fault

def code : Fault → String
  | .missing _ => "MISSING_VAR"
  | .invalid _ => "INVALID_VALUE"

def message : Fault → String
  | .missing name => "Missing required environment variable: " ++ name
  | .invalid text => "Invalid configuration value: " ++ text

end Fault

end SchemaCodegen.Settings
