import SchemaCodegen.Disk.Path
import SchemaCodegen.Settings.Fault
import SchemaCodegen.Text.Blank

/-!
# Artifacts

What is generated for each table: a template, and a pattern for the path of the file that it
renders to.
-/

namespace SchemaCodegen

structure ArtifactSpec where
  template : String
  /-- A path below the output root with places for the schema and the table. -/
  pathPattern : String
deriving DecidableEq, Repr

namespace ArtifactSpec

/-- The place of the schema's name in a pattern. -/
def schemaPlace : String := "\x7bschema\x7d"

/-- The place of the table's name in a pattern. -/
def tablePlace : String := "\x7btable\x7d"

/-- The path for a table. The table's name is filled in last, also where the schema's name brought
in a place for it. -/
def outputPath (spec : ArtifactSpec) (schema table : String) : Path :=
  ⟨Text.replace (Text.replace spec.pathPattern schemaPlace schema) tablePlace table⟩

/-- A template and a pattern with a colon between them; neither may be blank. -/
def ofText (text : String) : Except Settings.Fault ArtifactSpec :=
  let refused := Settings.Fault.invalid
    ("artifact '" ++ text ++ "' must look like template:path-pattern")
  match Text.splitOnce text ":" with
  | none => .error refused
  | some (template, pattern) =>
    let template := Text.trim template
    let pattern := Text.trim pattern
    if template.isEmpty || pattern.isEmpty then .error refused else .ok ⟨template, pattern⟩

/-- Artifacts with commas between them; blank ones do not count. -/
def listOfText (text : String) : Except Settings.Fault (List ArtifactSpec) :=
  ((Text.splitOnChar text ',').filter (!Text.isAllBlank ·)).mapM ofText

end ArtifactSpec

end SchemaCodegen
