import SchemaCodegen.Disk.Basic
import SchemaCodegen.Json.Decoder

/-!
# Failures

Everything that a caller can be told went wrong, with its code and its message. What a template
fails of is carried inside `Failure.render`, so that there is one type of failure.
-/

namespace SchemaCodegen

/-- Why the evaluation of a template stops. -/
inductive Template.Fault where
  | undefinedValue
  | invalidOperation
  | unknownFilter
  | unknownFunction
  | unknownTest
  | unknownMethod
  | unknownBlock
  | templateNotFound
  /-- A template that was included or extended does not compile. -/
  | invalidTemplate
  | badInclude
  /-- The body that a block takes the place of fails. -/
  | badBlock
  | badEscape
  | tooManyArguments
  | missingArgument
  | cannotUnpack
  | writeFailure
deriving DecidableEq, Repr, Inhabited

/-- A name of the fault that stays the same whatever the message says. -/
def Template.Fault.name : Template.Fault → String
  | .undefinedValue => "UndefinedError"
  | .invalidOperation => "InvalidOperation"
  | .unknownFilter => "UnknownFilter"
  | .unknownFunction => "UnknownFunction"
  | .unknownTest => "UnknownTest"
  | .unknownMethod => "UnknownMethod"
  | .unknownBlock => "UnknownBlock"
  | .templateNotFound => "TemplateNotFound"
  | .invalidTemplate => "SyntaxError"
  | .badInclude => "BadInclude"
  | .badBlock => "EvalBlock"
  | .badEscape => "BadEscape"
  | .tooManyArguments => "TooManyArguments"
  | .missingArgument => "MissingArgument"
  | .cannotUnpack => "CannotUnpack"
  | .writeFailure => "WriteFailure"

/-- Why a template could not be rendered. -/
inductive Template.Cause where
  | notFound (file : Path)
  | unreadable (file : Path) (fault : Disk.Fault)
  /-- The template's own text does not compile. -/
  | malformed
  | evaluation (fault : Template.Fault)
  /-- The data to render cannot be made JSON. -/
  | unserializable
deriving DecidableEq, Repr, Inhabited

/-- The message of a cause that concerns a file. -/
def Template.Cause.message : Template.Cause → String
  | .notFound file => "template file not found: " ++ file.text
  | .unreadable file fault => "failed to read template file " ++ file.text ++ ": " ++ fault.message
  | .malformed => "template syntax error"
  | .evaluation _ => "template evaluation error"
  | .unserializable => "render data could not be serialized"

/-- Why the database answered no rows. -/
inductive Database.Fault where
  | statementFailed
  /-- A query for one row gave none or several. -/
  | rowCount
deriving DecidableEq, Repr, Inhabited

def Database.Fault.message : Database.Fault → String
  | .statementFailed => "db error"
  | .rowCount => "query returned an unexpected number of rows"

inductive Failure where
  | invalidArgument (text : String)
  | notFound (what : String)
  | ambiguous (subject : String) (count : Nat)
  | protectedFile (path : Path)
  | render (template : String) (cause : Template.Cause)
  | validation (text : String)
  | io (fault : Disk.Fault)
  | serialization (refusal : Json.Refusal)
  | database (fault : Database.Fault)
  | config (text : String)
  | internal (text : String)
deriving DecidableEq, Repr, Inhabited

namespace Failure

/-- A code that stays the same whatever the message says. -/
def code : Failure → String
  | .invalidArgument _ => "INVALID_ARGUMENT"
  | .notFound _ => "NOT_FOUND"
  | .ambiguous _ _ => "AMBIGUOUS_OPERATION"
  | .protectedFile _ => "PROTECTED_FILE"
  | .render _ _ => "RENDER_FAILED"
  | .validation _ => "VALIDATION_ERROR"
  | .io _ => "IO_ERROR"
  | .serialization _ => "SERIALIZATION_ERROR"
  | .database _ => "DATABASE_ERROR"
  | .config _ => "CONFIG_ERROR"
  | .internal _ => "INTERNAL_ERROR"

def refusalMessage : Json.Refusal → String
  | .ended => "unexpected end of text"
  | .malformed => "not JSON"
  | .mismatch => "a value of another shape was expected"
  | .missingField name => "missing field `" ++ name ++ "`"
  | .duplicateField name => "duplicate field `" ++ name ++ "`"
  | .unknownVariant name => "unknown variant `" ++ name ++ "`"

def message : Failure → String
  | .invalidArgument text => "Invalid argument: " ++ text
  | .notFound what => "Not found: " ++ what
  | .ambiguous subject count =>
    subject ++ ": appears " ++ toString count ++ " times (expected exactly 1)"
  | .protectedFile path => "Cannot write protected file: " ++ path.text
  | .render template _ => "Failed to render template '" ++ template ++ "'"
  | .validation text => "Validation error: " ++ text
  | .io fault => "I/O error: " ++ fault.message
  | .serialization refusal => "Serialization error: " ++ refusalMessage refusal
  | .database fault => "Database error: " ++ fault.message
  | .config text => "Configuration error: " ++ text
  | .internal text => "Internal error: " ++ text

/-- Whether a protected file was refused. -/
def isProtected : Failure → Bool
  | .protectedFile _ => true
  | _ => false

end Failure

/-- A result that may be a failure. -/
abbrev Outcome (α : Type) := Except Failure α

/-- A disk operation's result as an outcome. -/
def Disk.outcome {α : Type} (result : Except Disk.Fault α) : Outcome α :=
  result.mapError .io

end SchemaCodegen
