import SuiteLint.Rule.Basic
import SuiteLint.Walk.Visitor

/-!
# No stateless classes

A class whose members are all static, or which has only a constructor, never needs an instance: it
is a namespace or a function in disguise.  This rule reports such classes.  A class that extends or
implements something, one without members, and one whose constructor declares properties through
its parameters are accepted.
-/

namespace SuiteLint.StatelessClass

open SuiteLint.Tree (Node Kind SyntaxTree)
open SuiteLint.Walk (Plan Visitor Context)

/-! ### The rule -/

/-- Name of the rule. -/
def name : String := "no-stateless-class"

/-- Code of the rule. -/
def code : String := "TL002"

/-- What a finding begins with. -/
def introduction : String :=
  "A stateless class was found. This indicates a failure in the object model: "

/-- The help attached to findings. -/
def help : String := "Use plain functions or a module instead of a class"

/-- Description of the rule. -/
def metadata : RuleMetadata :=
  { name := name, code := code, category := .maintainability
    description := "Flags classes with only static members or only a constructor"
    issueClass := "Non-SDL", issueType := "Warning", severity := .warning, group := "Correctness"
    enabledByDefault := true, typescriptOnly := false, cwe := [398] }

/-! ### Statelessness -/

/-- Whether a class member is a constructor. -/
def isConstructor (member : Node) : Bool :=
  (member.kind == .methodDefinition || member.kind == .methodSignature) &&
    (member.field? "name").any (fun n => n.text == "constructor")

/-- Whether a parameter of a constructor declares a property. -/
def declaresProperty (parameter : Node) : Bool :=
  (parameter.kind == .requiredParameter || parameter.kind == .optionalParameter) &&
    ((parameter.childOfKind? .accessibilityModifier).isSome ||
      (parameter.childOfKind? .overrideModifier).isSome || parameter.hasToken "readonly")

/-- Whether a constructor declares properties through its parameters. -/
def declaresProperties (constructor : Node) : Bool :=
  (constructor.field? "parameters").any (fun parameters =>
    parameters.namedChildren.any declaresProperty)

/-- Whether a member gives instances no state: a plain constructor, or something static. -/
def isIdleMember (member : Node) : Bool :=
  if isConstructor member then !declaresProperties member else member.hasToken "static"

/-- **Stateless class**: no heritage, some members, and none of them gives instances state. -/
def isStateless (cls body : Node) : Bool :=
  let members := body.namedChildren.filter (fun m => m.kind.isClassMember)
  (cls.childOfKind? .classHeritage).isNone && !members.isEmpty && members.all isIdleMember

/-! ### The visitor -/

/-- The message about a class. -/
def messageFor (cls : Node) : String :=
  introduction ++ ((cls.field? "name").map Node.text).getD "<anonymous>"

/-- What happens at a class. -/
def classPlan (cls : Node) : Plan Unit Unit :=
  (Plan.ofExcept (Walk.requireField cls "body")).bind fun body =>
    if isStateless cls body then .report cls (messageFor cls) (Plan.visitChildren cls)
    else Plan.visitChildren cls

/-- **Visitor of the rule**. -/
def visitor : Visitor Unit :=
  { entersScopes := true, onClass := classPlan }

/-- The context that a walk of the rule starts from. -/
def start (file : SourceFile) : Context Unit :=
  { reporter :=
      { file := file, code := code, rule := name, severity := metadata.severity
        suggestion := some help }
    memory := () }

/-- **Findings** in one file. -/
def apply (file : SourceFile) (tree : SyntaxTree) : List Diagnostic :=
  (Walk.walk visitor tree.root (start file)).2.reporter.diagnostics

/-- The rule. -/
def rule : Rule :=
  { metadata := metadata, apply := apply }

end SuiteLint.StatelessClass
