import SuiteLint.Regex.Basic
import SuiteLint.Tree.Node

/-!
# Side-effect classifier

Decides from the shape of an expression whether evaluating it at once can do harm.  Literals,
functions, identifiers, member accesses and template strings are harmless; arrays, objects, spreads
and wrappers are as harmless as what is in them; constant combinations of literals are harmless.
Anything else is suspect, unless a list or pattern of the settings lets it pass.  The answer is the
list of the suspect parts.
-/

namespace SuiteLint.Tree

/-! ### Settings -/

/-- **Classifier settings**: what is let pass by name or text. -/
structure ClassifierSettings where
  /-- Calls with exactly this source text. -/
  safeCallTexts : List String := ["moment()"]
  /-- Method calls on a receiver with exactly this source text. -/
  safeCallTargets : List String := ["moment()"]
  /-- Constructors. -/
  safeConstructors : List String := ["Date"]
  /-- Expressions whose source text matches. -/
  ignore : Option Regex := none

namespace ClassifierSettings

/-- The receiver of a method call. -/
def callTarget? (call : Node) : Option Node :=
  match call.field? "function" with
  | some callee => if callee.kind == .memberExpression then callee.field? "object" else none
  | none => none

/-- The name of the constructor that `new` is applied to; for a member access, the member. -/
def constructedName? (expr : Node) : Option String :=
  match expr.field? "constructor" with
  | some callee =>
    if callee.kind == .memberExpression then (callee.field? "property").map Node.text
    else some callee.text
  | none => none

/-- Whether a call or construction is on one of the lists. -/
def lists (settings : ClassifierSettings) (expr : Node) : Bool :=
  match expr.kind with
  | .callExpression =>
    settings.safeCallTexts.contains expr.text ||
      (callTarget? expr).any (fun target => settings.safeCallTargets.contains target.text)
  | .newExpression =>
    (constructedName? expr).any (fun name => settings.safeConstructors.contains name)
  | _ => false

/-- Whether the pattern of the settings matches the text of an expression. -/
def ignores (settings : ClassifierSettings) (expr : Node) : Bool :=
  settings.ignore.any (fun regex => regex.isMatch expr.text)

/-- **What the settings let pass**. -/
def admits (settings : ClassifierSettings) (expr : Node) : Bool :=
  settings.lists expr || settings.ignores expr

end ClassifierSettings

/-! ### Shapes -/

/-- Whether a label is that of a type, not of an expression. -/
def isTypeLabel (label : String) : Bool :=
  "_type".toList.isSuffixOf label.toList ||
    ["type_arguments", "type_identifier", "type_annotation", "predefined_type"].contains label

/-- The expression inside a wrapper. -/
def wrapped? (expr : Node) : Option Node :=
  (expr.field? "expression").or
    (expr.namedChildren.find? (fun child => !isTypeLabel child.label))

/-- The parts of an object literal that one of its properties contributes. -/
def propertyParts (property : Node) : List Node :=
  match property.kind with
  | .pair => (property.field? "value").toList
  | .spreadElement => [property]
  | _ => []

/-- **Shape** of an expression for the classifier. -/
inductive Shape where
  /-- Harmless in itself. -/
  | harmless
  /-- As harmless as its parts. -/
  | made (parts : List Node)
  /-- To be judged by itself. -/
  | single

/-- The shape of an expression. -/
def shape (expr : Node) : Shape :=
  let kind := expr.kind
  if kind.isLiteral || kind.isFunctionLiteral then .harmless
  else if kind.isWrapper then .made (wrapped? expr).toList
  else match kind with
    | .arrayLiteral => .made expr.namedChildren
    | .objectLiteral => .made (expr.namedChildren.flatMap propertyParts)
    | .spreadElement => .made expr.namedChildren.head?.toList
    | .templateString | .memberExpression | .identifier => .harmless
    | _ => .single

/-! ### Classification -/

/-- **Constant expression**: literals combined by unary and binary operators and parentheses, over
at most `room` levels. -/
def isConstant : (room : Nat) → Node → Bool
  | 0, _ => false
  | room + 1, expr =>
    match expr.kind with
    | .binaryExpression =>
      match expr.field? "left", expr.field? "right" with
      | some left, some right => isConstant room left && isConstant room right
      | _, _ => false
    | .unaryExpression =>
      match expr.field? "argument" with
      | some argument => isConstant room argument
      | none => false
    | .parenthesizedExpression =>
      match expr.namedChildren.head? with
      | some inner => isConstant room inner
      | none => false
    | kind => kind.isLiteral

/-- **Suspect parts** within at most `room` levels; what lies deeper is taken to be harmless. -/
def suspects (settings : ClassifierSettings) : (room : Nat) → Node → List Node
  | 0, _ => []
  | room + 1, expr =>
    match shape expr with
    | .harmless => []
    | .made parts => parts.flatMap (suspects settings room)
    | .single =>
      if settings.admits expr || isConstant (room + 1) expr then [] else [expr]

/-- The number of steps below an expression that are still looked at. -/
def classifierDepth : Nat := 256

/-- **Suspect parts of an expression**, in source order; an absent expression has none. -/
def suspectParts (settings : ClassifierSettings) (expr : Option Node) : List Node :=
  match expr with
  | some e => suspects settings (classifierDepth + 1) e
  | none => []

/-- Whether an expression is safe. -/
def isSafe (settings : ClassifierSettings) (expr : Option Node) : Bool :=
  (suspectParts settings expr).isEmpty

end SuiteLint.Tree
