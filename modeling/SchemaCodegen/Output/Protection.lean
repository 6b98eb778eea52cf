import SchemaCodegen.Failure

/-!
# Protected files

Files whose name contains `.prt.` in any case are kept by hand; nothing that is generated may
touch them.
-/

namespace SchemaCodegen

def protectedMark : String := ".prt."

namespace Path

/-- Whether the file name contains the mark. Directories on the way do not count. -/
def isProtected (p : Path) : Bool :=
  p.fileName?.any fun name => Text.contains (Text.asciiLower name) protectedMark

/-- Refuses a protected path. -/
def ensureWritable (p : Path) : Outcome Unit :=
  if p.isProtected then .error (.protectedFile p) else .ok ()

end Path

end SchemaCodegen
