import SuiteLint.Json.Value
import SuiteLint.Report.Diagnostic

/-!
# Results as JSON

The machine-readable form of a result, and reading it back.  A record is an object with its fields
as entries, or an array of their values in order; further entries of an object are passed over.
-/

namespace SuiteLint

/-! ### Writing -/

/-- A location as JSON. -/
def Location.toJson (l : Location) : Json :=
  .object
    [("file", .string l.file.text), ("line", .natural l.line), ("column", .natural l.column),
     ("offset", .natural l.offset), ("length", .natural l.length)]

/-- A suggestion as JSON. -/
def suggestionJson : Option String → Json
  | some message => .object [("message", .string message)]
  | none => .null

/-- A diagnostic as JSON. -/
def Diagnostic.toJson (d : Diagnostic) : Json :=
  .object
    [("code", .string d.code), ("rule", .string d.rule), ("severity", .string d.severity.name),
     ("location", d.location.toJson), ("message", .string d.message),
     ("suggestion", suggestionJson d.suggestion)]

/-- **A result as JSON**. -/
def LintResult.toJson (r : LintResult) : Json :=
  .object
    [("diagnostics", .array (r.diagnostics.map Diagnostic.toJson)),
     ("files_checked", .natural r.filesChecked)]

/-! ### Reading -/

namespace Json

/-- The values of the fields of a record, in the order of `keys`.  A field that an object lacks is
`none`; an array has to have all of them. -/
def record? (keys : List String) : Json → Option (List (Option Json))
  | .object entries => some (keys.map (fun key => entries.lookup key))
  | .array items => if items.length = keys.length then some (items.map some) else none
  | _ => none

/-- A severity: its name, or an object with its name as the only key and nothing under it. -/
def asSeverity? : Json → Option Severity
  | .string name => Severity.ofName? name
  | .object [(name, .null)] => Severity.ofName? name
  | _ => none

/-- A location. -/
def asLocation? (value : Json) : Option Location := do
  match ← value.record? ["file", "line", "column", "offset", "length"] with
  | [some file, some line, some column, some offset, some length] =>
    some
      { file := ⟨← file.asString?⟩, line := ← line.asNatural?, column := ← column.asNatural?
        offset := ← offset.asNatural?, length := ← length.asNatural? }
  | _ => none

/-- A suggestion, which may be absent or null. -/
def asSuggestion? : Option Json → Option (Option String)
  | none | some .null => some none
  | some value => do
    match ← value.record? ["message"] with
    | [some message] => some (some (← message.asString?))
    | _ => none

/-- A diagnostic. -/
def asDiagnostic? (value : Json) : Option Diagnostic := do
  match ← value.record? ["code", "rule", "severity", "location", "message", "suggestion"] with
  | [some code, some rule, some severity, some location, some message, suggestion] =>
    some
      { code := ← code.asString?, rule := ← rule.asString?, severity := ← severity.asSeverity?
        location := ← location.asLocation?, message := ← message.asString?
        suggestion := ← asSuggestion? suggestion }
  | _ => none

end Json

/-- **Reading a result** from JSON. -/
def LintResult.ofJson? (value : Json) : Option LintResult := do
  match ← value.record? ["diagnostics", "files_checked"] with
  | [some diagnostics, some files] =>
    some
      { diagnostics := ← (← diagnostics.asArray?).mapM Json.asDiagnostic?
        filesChecked := ← files.asNatural? }
  | _ => none

end SuiteLint
