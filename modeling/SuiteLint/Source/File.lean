import SuiteLint.Report.Diagnostic
import SuiteLint.Text.Lines

/-!
# Source files under check

The context that a finding is located in: the name under which a file is reported, and its text.
-/

namespace SuiteLint

/-- **Source file**: what a rule knows about the file it looks at. -/
structure SourceFile where
  /-- The name under which findings are reported. -/
  shown : Path
  /-- The text. -/
  content : String

namespace SourceFile

/-- A file seen from a root directory: it is reported relative to the root, or as written when it
is not below the root. -/
def under (root path : Path) (content : String) : SourceFile :=
  { shown := (root.below? path).getD path, content := content }

/-- The bytes of the text. -/
def bytes (file : SourceFile) : List UInt8 :=
  file.content.toUTF8.data.toList

/-- The line and column of a byte offset. -/
def position (file : SourceFile) (offset : Nat) : Text.Position :=
  Text.positionAt file.bytes offset

/-- **Location of a byte range**: offset and length as given, line and column of the offset. -/
def locate (file : SourceFile) (offset length : Nat) : Location :=
  let p := file.position offset
  { file := file.shown, line := p.line, column := p.column, offset := offset, length := length }

end SourceFile

end SuiteLint
