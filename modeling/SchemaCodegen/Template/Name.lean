import SchemaCodegen.Failure
import SchemaCodegen.Text.Blank

/-!
# Template names

A template is asked for by name: blanks around the name do not count, backslashes are slashes, and
the ending of template files may be written in any case or left out. Names that are empty or lead
out of the template root are refused.
-/

namespace SchemaCodegen.Template.Name

/-- The ending of template files. -/
def extension : String := "j2"

/-- The name without the ending of template files. -/
def stem (name : String) : String :=
  let cs := name.toList
  let split := cs.length - (extension.length + 1)
  if Text.sameIgnoringAsciiCase (cs.drop split) ('.' :: extension.toList) then
    String.ofList (cs.take split)
  else name

/-- The spelling of a name that all its spellings share. -/
def canonical (name : String) : String :=
  stem (Text.replace (Text.trim name) "\\" "/")

/-- Whether a component leads upwards or to the root. -/
def escapesRoot : Path.Component → Bool
  | .up | .root => true
  | .here | .name _ => false

/-- The canonical spelling of a name that stays below the template root. -/
def normalize (name : String) : Outcome String :=
  let canonical := canonical name
  if canonical.isEmpty then .error (.invalidArgument "Template name must not be empty")
  else if (Path.components ⟨canonical⟩).any escapesRoot then
    .error (.invalidArgument
      ("Template name '" ++ name ++ "' must be relative to the template root"))
  else .ok canonical

/-- The file of a template with a normalized name. -/
def file (root : Path) (name : String) : Path :=
  root.join (name ++ "." ++ extension)

/-- Whether a template that is named by another one may be looked for: no part of the name starts
with a point or holds a backslash. -/
def isLoadable (name : String) : Bool :=
  (Text.splitOnChar name '/').all fun part =>
    part.toList.head? != some '.' && !part.toList.contains '\\'

/-- The file of a template that is named by another one, its ending being part of the name. -/
def loadedFile (root : Path) (name : String) : Path :=
  (Text.splitOnChar name '/').foldl Path.join root

end SchemaCodegen.Template.Name
