import SuiteLint.Walk.Plan

/-!
# Walking a tree

A `Visitor` has a handler for each class of nodes.  `visit` is the boundary around every node: it
runs the handler, notes the fault that the handler may end in, and puts the open scopes back to what
they were, so that nothing that happens at one node reaches its siblings.  Nodes nested deeper than
`maxDepth` are not entered.
-/

namespace SuiteLint.Walk

open SuiteLint.Tree (Node SyntaxTree)

variable {σ : Type}

/-! ### Visitors -/

/-- A plan for a declaration with a scope of its own: its children are walked only on request. -/
def scopePlan (enters : Bool) (node : Node) : Plan σ Unit :=
  if enters then Plan.visitChildren node else .done ()

/-- **Visitor**: a handler per class of nodes.  By default the children are walked, but not those
of function and class declarations unless `entersScopes` is set. -/
structure Visitor (σ : Type) where
  /-- Whether function and class declarations are entered. -/
  entersScopes : Bool := false
  /-- The root of a file. -/
  onProgram : Node → Plan σ Unit := Plan.visitChildren
  /-- A call. -/
  onCall : Node → Plan σ Unit := Plan.visitChildren
  /-- A construction with `new`. -/
  onNew : Node → Plan σ Unit := Plan.visitChildren
  /-- One binding of a variable declaration. -/
  onDeclarator : Node → Plan σ Unit := Plan.visitChildren
  /-- A function declaration. -/
  onFunction : Node → Plan σ Unit := scopePlan entersScopes
  /-- A class. -/
  onClass : Node → Plan σ Unit := scopePlan entersScopes
  /-- Any other node. -/
  onOther : Node → Plan σ Unit := Plan.visitChildren

/-- The handler for a node, by its kind. -/
def Visitor.handle (v : Visitor σ) (node : Node) : Plan σ Unit :=
  match node.kind with
  | .program => v.onProgram node
  | .callExpression => v.onCall node
  | .newExpression => v.onNew node
  | .variableDeclarator => v.onDeclarator node
  | .functionDeclaration => v.onFunction node
  | .classDeclaration | .classExpression => v.onClass node
  | _ => v.onOther node

/-! ### The walk -/

/-- The greatest depth at which nodes are entered. -/
def maxDepth : Nat := 512

/-- Notes a fault. -/
def Context.note (cx : Context σ) (fault : Fault) : Context σ :=
  { cx with faults := cx.faults ++ [fault] }

/-- **Walking one node**, `room` levels above the limit.  The handler's fault is noted, and the
scopes it left open are closed. -/
def visit (v : Visitor σ) : (room : Nat) → Node → Context σ → Context σ
  | 0, node, cx =>
    { cx with visited := cx.visited + 1 }.note (.tooDeep node.label node.start maxDepth)
  | room + 1, node, cx =>
    let entered := { cx with visited := cx.visited + 1, depth := cx.depth + 1 }
    let (result, after) := (v.handle node).run (visit v room) entered
    let after := { after with depth := after.depth - 1 }
    let after := match result with
      | .ok _ => after
      | .error fault => after.note fault
    { after with scopes := after.scopes.restore cx.scopes.depth }

/-- Walking one node from a context, with the room that its depth leaves. -/
def walkNode (v : Visitor σ) (node : Node) (cx : Context σ) : Context σ :=
  visit v (maxDepth - cx.depth) node cx

/-- The counters of a finished walk. -/
structure Summary where
  /-- The nodes met. -/
  visited : Nat
  /-- The faults noted. -/
  faults : Nat
  deriving DecidableEq, Repr

/-- **Walking a tree** from its root. -/
def walk (v : Visitor σ) (root : Node) (cx : Context σ) : Summary × Context σ :=
  let after := walkNode v root cx
  ({ visited := after.visited - cx.visited, faults := after.faults.length - cx.faults.length },
    after)

end SuiteLint.Walk
