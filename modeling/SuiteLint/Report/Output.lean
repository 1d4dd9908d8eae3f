import SuiteLint.Disk.Entry
import SuiteLint.Report.Exchange
import SuiteLint.Report.Snippet

/-!
# Output

The forms in which a result is printed.
-/

namespace SuiteLint

/-- **Format** of the output. -/
inductive OutputFormat where
  /-- For people, with source snippets. -/
  | text
  /-- For programs. -/
  | json
  /-- One line per diagnostic. -/
  | compact
  deriving DecidableEq, Repr

namespace OutputFormat

/-- The format of a name. -/
def ofName? : String → Option OutputFormat
  | "text" => some .text
  | "json" => some .json
  | "compact" => some .compact
  | _ => none

end OutputFormat

namespace LintResult

/-- A diagnostic for people: with its source where that can be read below `root`. -/
def explained (disk : Disk) (root : Path) (d : Diagnostic) : String :=
  match disk.readText (root.join d.location.file) with
  | .ok source => Snippet.render d source
  | .error _ => d.block

/-- The closing line of a report for people. -/
def summary (r : LintResult) : String :=
  "Found " ++ toString (r.count .error) ++ " error(s), " ++ toString (r.count .warning) ++
    " warning(s), " ++ toString (r.count .info) ++ " info(s) in " ++ toString r.filesChecked ++
    " file(s)\n"

/-- **Printed form** of a result, `root` being the directory that its files are reported from. -/
def print (r : LintResult) (format : OutputFormat) (disk : Disk) (root : Path) : String :=
  match format with
  | .text => String.join (r.diagnostics.map (fun d => explained disk root d ++ "\n")) ++ r.summary
  | .json => r.toJson.render ++ "\n"
  | .compact => String.join (r.diagnostics.map (fun d => d.oneLine ++ "\n"))

end LintResult

end SuiteLint
