import SuiteLint.Regex.Parser
import SuiteLint.Rule.Basic
import SuiteLint.Tree.Classifier
import SuiteLint.Walk.Visitor

/-!
# No side-effect code in test suites

Code that stands directly in the body of a test suite runs while the suite is declared, before any
test or hook.  This rule reports variable initialisers and calls in suite bodies that may have side
effects.  Only files that declare a suite at top level are looked at.  Hooks and tests are never
entered, and function literals other than a suite's callback run later and are skipped.
-/

namespace SuiteLint.SideEffectCode

open SuiteLint.Tree (Node Kind ClassifierSettings SyntaxTree)
open SuiteLint.Walk (Plan Visitor Context)

/-! ### The rule -/

/-- Name of the rule. -/
def name : String := "no-side-effect-code"

/-- Code of the rule. -/
def code : String := "TL001"

/-- What a finding begins with. -/
def introduction : String :=
  "Do not initialize variables in a test suite body; use a lifecycle hook instead: "

/-- The help attached to findings. -/
def help : String := "Move this code into a before() or beforeEach() hook"

/-- Description of the rule. -/
def metadata : RuleMetadata :=
  { name := name, code := code, category := .maintainability
    description := "Forbids side-effect code in test suite bodies outside lifecycle hooks"
    issueClass := "Non-SDL", issueType := "Warning", severity := .error, group := "Correctness"
    enabledByDefault := true, typescriptOnly := false, cwe := [] }

/-! ### Callees -/

/-- The scope that is open inside a suite. -/
def groupingScope : String := "grouping"

/-- Functions that declare a suite. -/
def groupingCallees : List String := ["describe", "context"]

/-- Functions that declare a hook or a test. -/
def lifecycleCallees : List String :=
  ["before", "beforeEach", "beforeAll", "after", "afterEach", "afterAll", "it", "specify"]

/-- Members of these functions that stand for the function itself. -/
def modifiers : List String := ["only", "skip", "timeout"]

/-- What a called function is for. -/
inductive CalleeRole where
  /-- It declares a suite. -/
  | grouping
  /-- It declares a hook or a test. -/
  | lifecycle
  /-- Anything else. -/
  | other
  deriving DecidableEq, Repr

/-- The name behind a callee: an identifier, or an identifier with a modifier. -/
def baseName? (callee : Node) : Option String :=
  match callee.kind with
  | .identifier => some callee.text
  | .memberExpression =>
    match callee.field? "object", callee.field? "property" with
    | some object, some property =>
      if object.kind == .identifier && modifiers.contains property.text then some object.text
      else none
    | _, _ => none
  | _ => none

/-- **Role of a callee**. -/
def calleeRole (callee : Node) : CalleeRole :=
  match baseName? callee with
  | none => .other
  | some base =>
    if groupingCallees.contains base then .grouping
    else if lifecycleCallees.contains base then .lifecycle
    else .other

/-- Whether a top-level statement is the call of a suite function. -/
def declaresSuite (statement : Node) : Bool :=
  statement.kind == .expressionStatement &&
    (match statement.namedChildren.head? with
      | some expr =>
        expr.kind == .callExpression &&
          (expr.field? "function").any (fun callee => calleeRole callee == .grouping)
      | none => false)

/-- **Suite file**: some top-level statement declares a suite. -/
def isSuiteFile (root : Node) : Bool :=
  root.namedChildren.any declaresSuite

/-! ### The visitor -/

/-- Reports `anchor` once for every suspect part of an expression. -/
def check (settings : ClassifierSettings) (anchor : Node) (expr : Option Node) : Plan Unit Unit :=
  Plan.each (fun _ => .report anchor (Reporter.quoting introduction anchor) (.done ()))
    (Tree.suspectParts settings expr)

/-- Whether a top-level statement is walked. -/
def isWalkedStatement (statement : Node) : Bool :=
  match statement.kind with
  | .expressionStatement | .lexicalDeclaration | .variableDeclaration => true
  | _ => false

/-- Walks the arguments of a suite call: a callback through its children, anything else itself. -/
def suiteArguments (call : Node) : Plan Unit Unit :=
  (Plan.ofExcept (Walk.requireField call "arguments")).bind fun arguments =>
    Plan.each (fun argument =>
      if argument.kind.isFunctionLiteral then Plan.visitChildren argument
      else .visit argument (.done ())) arguments.namedChildren

/-- What happens at a call. -/
def callPlan (settings : ClassifierSettings) (call : Node) : Plan Unit Unit :=
  (Plan.ofExcept (Walk.requireField call "function")).bind fun callee =>
    match calleeRole callee with
    | .grouping =>
      .enter groupingScope fun token =>
        (suiteArguments call).bind fun _ => .leave token (.done ())
    | .lifecycle => .done ()
    | .other =>
      .isActive groupingScope fun inside =>
        if inside then check settings call (some call) else .done ()

/-- **Visitor of the rule**. -/
def visitor (settings : ClassifierSettings) : Visitor Unit :=
  { onProgram := fun root =>
      Plan.each (fun statement => .visit statement (.done ()))
        (root.namedChildren.filter isWalkedStatement)
    onCall := callPlan settings
    onDeclarator := fun declarator =>
      check settings declarator (declarator.field? "value")
    onOther := fun node =>
      if node.kind.isFunctionLiteral then .done () else Plan.visitChildren node }

/-- The context that a walk of the rule starts from. -/
def start (file : SourceFile) : Context Unit :=
  { reporter :=
      { file := file, code := code, rule := name, severity := metadata.severity
        suggestion := some help }
    memory := () }

/-- **Findings** in one file. -/
def apply (settings : ClassifierSettings) (file : SourceFile) (tree : SyntaxTree) :
    List Diagnostic :=
  if isSuiteFile tree.root then
    (Walk.walk (visitor settings) tree.root (start file)).2.reporter.diagnostics
  else []

/-! ### Setting up -/

/-- The rule with given classifier settings. -/
def rule (settings : ClassifierSettings) : Rule :=
  { metadata := metadata, apply := apply settings }

/-- Compiles the pattern of the `ignore` option. -/
def compileIgnore (compile : Regex.Compiler) (pattern : String) : Except RuleError Regex :=
  (compile pattern).mapError (fun reason => .invalidOption name "ignore" reason)

/-- **Classifier settings from options**: the defaults, extended by the lists that are given. -/
def settingsOf (options : RuleOptions) (compile : Regex.Compiler := Regex.compiler) :
    Except RuleError ClassifierSettings := do
  let base : ClassifierSettings := {}
  let ignore ← match ← options.string? name "ignore" with
    | none => Except.ok none
    | some pattern => (compileIgnore compile pattern).map some
  let calls ← options.strings name "safe_calls"
  let constructors ← options.strings name "safe_constructors"
  .ok { safeCallTexts := base.safeCallTexts ++ calls
        safeCallTargets := base.safeCallTargets ++ calls
        safeConstructors := base.safeConstructors ++ constructors
        ignore := ignore }

/-- The rule set up from options. -/
def ofOptions (options : RuleOptions) (compile : Regex.Compiler := Regex.compiler) :
    Except RuleError Rule :=
  (settingsOf options compile).map rule

/-- The rule with the default settings and a pattern of expressions to let pass. -/
def ignoring (pattern : String) : Except RuleError Rule := do
  let regex ← compileIgnore Regex.compiler pattern
  .ok (rule { ignore := some regex })

end SuiteLint.SideEffectCode
