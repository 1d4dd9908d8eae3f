import SuiteLint.Report.Reporter
import SuiteLint.Walk.Fault
import SuiteLint.Walk.Scope

/-!
# Plans

What a handler does at a node is written down as data: a `Plan` is a program whose steps are the
operations that a walk offers, ending in success or in a fault.  Having handlers as data lets a walk
run them on its own terms, and lets statements range over all of them.
-/

namespace SuiteLint.Walk

open SuiteLint.Tree (Node)

/-! ### The state of a walk -/

/-- **Walk context**: the state that a walk keeps, `σ` being the handlers' own part of it. -/
structure Context (σ : Type) where
  /-- The open scopes. -/
  scopes : ScopeTracker := {}
  /-- The reports. -/
  reporter : Reporter
  /-- The faults noted so far. -/
  faults : List Fault := []
  /-- The number of nodes met so far. -/
  visited : Nat := 0
  /-- The number of nodes being handled right now, one inside the other. -/
  depth : Nat := 0
  /-- What the handlers remember. -/
  memory : σ

/-! ### Plans -/

/-- **Plan** of a handler: its next step, and what follows once the step's answer is known. -/
inductive Plan (σ : Type) (α : Type) where
  /-- Ends well. -/
  | done (a : α)
  /-- Ends with a fault. -/
  | fail (fault : Fault)
  /-- Enters a scope. -/
  | enter (name : String) (next : ScopeToken → Plan σ α)
  /-- Leaves a scope. -/
  | leave (token : ScopeToken) (next : Plan σ α)
  /-- Closes scopes down to a depth. -/
  | restore (depth : Nat) (next : Plan σ α)
  /-- Asks whether a scope is open. -/
  | isActive (name : String) (next : Bool → Plan σ α)
  /-- Asks for the number of open scopes. -/
  | scopeDepth (next : Nat → Plan σ α)
  /-- Asks for the number of faults. -/
  | faultCount (next : Nat → Plan σ α)
  /-- Reports a node. -/
  | report (node : Node) (message : String) (next : Plan σ α)
  /-- Sets the help for later reports. -/
  | suggest (text : String) (next : Plan σ α)
  /-- Walks a node. -/
  | visit (node : Node) (next : Plan σ α)
  /-- Looks at the handlers' own state. -/
  | inspect (next : σ → Plan σ α)
  /-- Replaces the handlers' own state. -/
  | remember (memory : σ) (next : Plan σ α)

namespace Plan

variable {σ α β : Type}

/-- One plan after another. -/
def bind (p : Plan σ α) (f : α → Plan σ β) : Plan σ β :=
  match p with
  | done a => f a
  | fail fault => fail fault
  | enter name next => enter name (fun token => (next token).bind f)
  | leave token next => leave token (next.bind f)
  | restore depth next => restore depth (next.bind f)
  | isActive name next => isActive name (fun b => (next b).bind f)
  | scopeDepth next => scopeDepth (fun n => (next n).bind f)
  | faultCount next => faultCount (fun n => (next n).bind f)
  | report node message next => report node message (next.bind f)
  | suggest text next => suggest text (next.bind f)
  | visit node next => visit node (next.bind f)
  | inspect next => inspect (fun memory => (next memory).bind f)
  | remember memory next => remember memory (next.bind f)

/-- Plans are put together by carrying out one after the other. -/
instance : Monad (Plan σ) where
  pure := done
  bind := bind

/-- A result that is a fault where it is none. -/
def ofExcept : Except Fault α → Plan σ α
  | .ok a => done a
  | .error fault => fail fault

/-- A plan for every element of a list, in order. -/
def each (f : α → Plan σ Unit) : List α → Plan σ Unit
  | [] => done ()
  | a :: rest => (f a).bind (fun _ => each f rest)

/-- **Walking the children**: every named child in source order. -/
def visitChildren (node : Node) : Plan σ Unit :=
  each (fun child => visit child (done ())) node.namedChildren

/-- **Running a plan** over a context, `walk` being what walking a node does to it. -/
def run (walk : Node → Context σ → Context σ) : Plan σ α → Context σ → Except Fault α × Context σ
  | done a, cx => (.ok a, cx)
  | fail fault, cx => (.error fault, cx)
  | enter name next, cx =>
    let (scopes, token) := cx.scopes.enter name
    (next token).run walk { cx with scopes := scopes }
  | leave token next, cx => next.run walk { cx with scopes := cx.scopes.leave token }
  | restore depth next, cx => next.run walk { cx with scopes := cx.scopes.restore depth }
  | isActive name next, cx => (next (cx.scopes.isActive name)).run walk cx
  | scopeDepth next, cx => (next cx.scopes.depth).run walk cx
  | faultCount next, cx => (next cx.faults.length).run walk cx
  | report node message next, cx =>
    next.run walk { cx with reporter := cx.reporter.reportMessage node message }
  | suggest text next, cx =>
    next.run walk { cx with reporter := { cx.reporter with suggestion := some text } }
  | visit node next, cx => next.run walk (walk node cx)
  | inspect next, cx => (next cx.memory).run walk cx
  | remember memory next, cx => next.run walk { cx with memory := memory }

end Plan

end SuiteLint.Walk
