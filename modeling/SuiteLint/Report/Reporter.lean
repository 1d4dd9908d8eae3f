import SuiteLint.Source.Directive
import SuiteLint.Source.File
import SuiteLint.Text.Fragment
import SuiteLint.Tree.Node

/-!
# Reporting

Turns a node that a rule objects to into a diagnostic, unless a directive in the source allows it.
-/

namespace SuiteLint

open SuiteLint.Tree (Node)

/-- **Reporter**: whose findings they are, about which file, and what was reported so far. -/
structure Reporter where
  /-- The file. -/
  file : SourceFile
  /-- Code of the rule. -/
  code : String
  /-- Name of the rule. -/
  rule : String
  /-- Severity of its findings. -/
  severity : Severity
  /-- The help attached to every finding. -/
  suggestion : Option String := none
  /-- The diagnostics so far, in the order of the reports. -/
  diagnostics : List Diagnostic := []

namespace Reporter

/-- Whether a directive has to give a reason: this is so for the findings of error severity. -/
def requiresReason (severity : Severity) : Bool :=
  severity == .error

/-- The warning about a directive that lacks the reason it has to give. -/
def missingReason (r : Reporter) (location : Location) : Diagnostic :=
  { code := r.code, rule := r.rule, severity := .warning, location := location
    message := "Allow directive for '" ++ r.rule ++ "' is missing required reason"
    suggestion := some "Add reason=\"...\" to explain why this exception is necessary" }

/-- **What one report yields**: the finding itself where no directive allows it; nothing where one
does, but for the warning about a missing reason. -/
def outcome (r : Reporter) (node : Node) (message : String) : List Diagnostic :=
  let location := r.file.locate node.start node.width
  match Allowance.check r.file.content location.line r.rule with
  | .denied =>
    [{ code := r.code, rule := r.rule, severity := r.severity, location := location
       message := message, suggestion := r.suggestion }]
  | .allowed reason =>
    if requiresReason r.severity && reason.isNone then [r.missingReason location] else []

/-- Reports a node with a message. -/
def reportMessage (r : Reporter) (node : Node) (message : String) : Reporter :=
  { r with diagnostics := r.diagnostics ++ r.outcome node message }

/-- The message that quotes a node after an introduction. -/
def quoting (introduction : String) (node : Node) : String :=
  introduction ++ Text.fragment node.text Text.quoteLimit

/-- Reports a node, quoting its source after an introduction. -/
def report (r : Reporter) (node : Node) (introduction : String) : Reporter :=
  r.reportMessage node (quoting introduction node)

end Reporter

end SuiteLint
