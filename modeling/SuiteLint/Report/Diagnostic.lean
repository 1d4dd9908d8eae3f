import SuiteLint.Path.Basic
import SuiteLint.Report.Severity

/-!
# Diagnostics

A diagnostic says which rule found what, where, and how grave it is.  This module holds the type
and its text forms.
-/

namespace SuiteLint

/-- **Location**: a range of bytes in a file, with the line and column of its start. -/
structure Location where
  /-- The file, as it is reported. -/
  file : Path
  /-- Line of the start, from one. -/
  line : Nat
  /-- Column of the start in bytes, from one. -/
  column : Nat
  /-- Byte offset of the start. -/
  offset : Nat
  /-- Number of bytes. -/
  length : Nat
  deriving DecidableEq, Repr

/-- **Diagnostic**: one finding. -/
structure Diagnostic where
  /-- Code of the rule. -/
  code : String
  /-- Name of the rule. -/
  rule : String
  /-- How grave it is. -/
  severity : Severity
  /-- Where it is. -/
  location : Location
  /-- What was found. -/
  message : String
  /-- What to do about it. -/
  suggestion : Option String
  deriving DecidableEq, Repr

namespace Diagnostic

/-- `file:line:column` of a diagnostic. -/
def place (d : Diagnostic) : String :=
  d.location.file.text ++ ":" ++ toString d.location.line ++ ":" ++ toString d.location.column

/-- **One-line form**. -/
def oneLine (d : Diagnostic) : String :=
  d.place ++ ": " ++ d.severity.name ++ " [" ++ d.code ++ "] " ++ d.message

/-- **Block form**, used when the source cannot be shown. -/
def block (d : Diagnostic) : String :=
  d.code ++ " " ++ d.rule ++ " at " ++ d.place ++ "\n  " ++ d.severity.name ++ ": " ++ d.message ++
    "\n" ++
    (match d.suggestion with
      | some help => "  = help: " ++ help ++ "\n"
      | none => "")

/-- The headline over a source snippet. -/
def headline (d : Diagnostic) : String :=
  d.severity.name ++ " [" ++ d.code ++ "] " ++ d.message

/-- Order of diagnostics in a report: by file, then by offset. -/
def compare (a b : Diagnostic) : Ordering :=
  (a.location.file.compare b.location.file).then
    (Ord.compare a.location.offset b.location.offset)

end Diagnostic

/-! ### Results -/

/-- **Result of a check**: all diagnostics, and the number of files looked at. -/
structure LintResult where
  /-- The diagnostics found. -/
  diagnostics : List Diagnostic := []
  /-- The number of files checked. -/
  filesChecked : Nat := 0
  deriving DecidableEq, Repr

namespace LintResult

/-- Whether some diagnostic is at least this grave. -/
def hasAtLeast (r : LintResult) (severity : Severity) : Bool :=
  r.diagnostics.any (fun d => d.severity.atLeast severity)

/-- Whether some diagnostic is an error. -/
def hasErrors (r : LintResult) : Bool :=
  r.hasAtLeast .error

/-- The number of diagnostics of one severity. -/
def count (r : LintResult) (severity : Severity) : Nat :=
  r.diagnostics.countP (fun d => d.severity == severity)

/-- **Report order**: diagnostics by file and offset; those that tie keep their order. -/
def sorted (r : LintResult) : LintResult :=
  { r with diagnostics := r.diagnostics.mergeSort (fun a b => (a.compare b).isLE) }

end LintResult

end SuiteLint
