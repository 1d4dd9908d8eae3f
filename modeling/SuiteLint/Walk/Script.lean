import SuiteLint.Walk.Visitor

/-!
# Scripted visitors

A visitor that is told by a script what to do at which nodes, and that keeps a record of every
handler call.  It serves to watch a walk from outside.
-/

namespace SuiteLint.Walk

open SuiteLint.Tree (Node)

/-! ### Scripts -/

/-- The handlers of a visitor, by name. -/
inductive Hook where
  | program | call | construct | declarator | function | classNode | other
  deriving DecidableEq, Repr

/-- **Action** of a script. -/
inductive Action where
  /-- Enters a scope and keeps its token. -/
  | enter (name : String)
  /-- Leaves by the token kept last. -/
  | leave
  /-- Closes scopes down to a depth. -/
  | restore (depth : Nat)
  /-- Walks the children. -/
  | children
  /-- Does what is the default for a declaration with its own scope. -/
  | scope
  /-- Walks the child under a field, which has to be there. -/
  | field (name : String)
  /-- Reports the node, quoting it after an introduction. -/
  | report (introduction : String)
  /-- Reports the node with a message. -/
  | message (text : String)
  /-- Sets the help for later reports. -/
  | suggest (text : String)
  /-- Ends with a fault. -/
  | fault (reason : String)

/-- **Entry** of a script: what to do in a handler, for all nodes or those with a certain key. -/
structure Entry where
  /-- The handler. -/
  hook : Hook
  /-- The key that the node must have. -/
  key : Option String
  /-- What to do. -/
  actions : List Action

/-- A recorded handler call. -/
structure Event where
  /-- The handler. -/
  hook : Hook
  /-- The label of the node. -/
  label : String
  /-- The start of the node. -/
  start : Nat
  /-- The number of open scopes. -/
  depth : Nat
  /-- Which of the watched scopes are open. -/
  active : List Bool
  /-- The number of faults so far. -/
  faults : Nat

/-- What a scripted visitor remembers. -/
structure Record where
  /-- The handler calls, last first. -/
  events : List Event := []
  /-- The tokens kept, last first. -/
  tokens : List ScopeToken := []

/-! ### The visitor -/

/-- The key by which a script tells nodes of one handler apart. -/
def Hook.key (hook : Hook) (node : Node) : String :=
  let fieldText (name : String) := ((node.field? name).map Node.text).getD ""
  match hook with
  | .program => ""
  | .call => fieldText "function"
  | .construct => fieldText "constructor"
  | .declarator | .function | .classNode => fieldText "name"
  | .other => node.label

/-- Asks for each of the watched scopes whether it is open. -/
def watchPlan : List String → Plan Record (List Bool)
  | [] => .done []
  | name :: rest => .isActive name (fun b => (watchPlan rest).bind (fun bs => .done (b :: bs)))

/-- The plan of one action. -/
def Action.plan (entersScopes : Bool) (node : Node) : Action → Plan Record Unit
  | .enter name => .enter name (fun token => .inspect (fun r =>
      .remember { r with tokens := token :: r.tokens } (.done ())))
  | .leave => .inspect (fun r => match r.tokens with
      | [] => .done ()
      | token :: rest => .remember { r with tokens := rest } (.leave token (.done ())))
  | .restore depth => .restore depth (.done ())
  | .children => Plan.visitChildren node
  | .scope => scopePlan entersScopes node
  | .field name =>
    (Plan.ofExcept (requireField node name)).bind (fun child => .visit child (.done ()))
  | .report introduction => .report node (Reporter.quoting introduction node) (.done ())
  | .message text => .report node text (.done ())
  | .suggest text => .suggest text (.done ())
  | .fault reason => .fail (.malformed node.label node.start reason)

/-- What a hook does without a script entry. -/
def Hook.defaultPlan (entersScopes : Bool) (hook : Hook) (node : Node) : Plan Record Unit :=
  match hook with
  | .function | .classNode => scopePlan entersScopes node
  | _ => Plan.visitChildren node

/-- The plan of a hook: the call is recorded, then the first entry that fits is carried out. -/
def Hook.plan (entersScopes : Bool) (watch : List String) (script : List Entry) (hook : Hook)
    (node : Node) : Plan Record Unit :=
  .scopeDepth fun depth =>
  .faultCount fun faults =>
  (watchPlan watch).bind fun active =>
  .inspect fun r =>
  .remember { r with events := ⟨hook, node.label, node.start, depth, active, faults⟩ :: r.events }
  (match script.find? (fun e => e.hook == hook && e.key.all (fun k => k == hook.key node)) with
    | none => hook.defaultPlan entersScopes node
    | some entry => Plan.each (Action.plan entersScopes node) entry.actions)

/-- **Scripted visitor**. -/
def scripted (entersScopes : Bool) (watch : List String) (script : List Entry) :
    Visitor Record :=
  { entersScopes := entersScopes
    onProgram := Hook.plan entersScopes watch script .program
    onCall := Hook.plan entersScopes watch script .call
    onNew := Hook.plan entersScopes watch script .construct
    onDeclarator := Hook.plan entersScopes watch script .declarator
    onFunction := Hook.plan entersScopes watch script .function
    onClass := Hook.plan entersScopes watch script .classNode
    onOther := Hook.plan entersScopes watch script .other }

/-- Walks a tree several times over one context, and lists the counters of each walk. -/
def walkTimes {σ : Type} (v : Visitor σ) (root : Node) :
    Nat → Context σ → List Summary × Context σ
  | 0, cx => ([], cx)
  | n + 1, cx =>
    let (summary, cx) := walk v root cx
    let (rest, cx) := walkTimes v root n cx
    (summary :: rest, cx)

end SuiteLint.Walk
