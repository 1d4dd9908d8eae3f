import Mathlib.Logic.Relation
import Mathlib.Tactic.SplitIfs
import SuiteLint.Proofs.Walk.Effect
import SuiteLint.Rule.SideEffectCode

/-!
# What the rule on side-effect code reports

The rule is run by a walker with handlers, a stack of scopes and a depth counter.  This module says
what it reports without any of them.

From a node the rule goes on to certain others (`steps`); a `Place` is a node with the nodes that
were passed on the way to it.  At a variable declarator the initialiser is judged, and at a call
that declares neither suite nor hook nor test the call itself, provided that a suite call was passed
(`judgedParts`).  Each suspect part yields one report of the place's node (`finding`).

`apply_eq_findings`: in a file that declares a suite the rule reports exactly that, for the places
at most 511 steps from the root and in preorder; in any other file it reports nothing.
-/

namespace SuiteLint.SideEffectCode

open SuiteLint.Tree (Node Kind ClassifierSettings SyntaxTree)
open SuiteLint.Walk (Context Plan Visitor)

/-! ### Suites and hooks -/

/-- `Denotes names callee`: the callee is one of `names`, bare or with a modifier. -/
def Denotes (names : List String) (callee : Node) : Prop :=
  (callee.kind = .identifier ∧ callee.text ∈ names) ∨
    (callee.kind = .memberExpression ∧ ∃ object property,
      callee.field? "object" = some object ∧ callee.field? "property" = some property ∧
      object.kind = .identifier ∧ object.text ∈ names ∧
      property.text ∈ ["only", "skip", "timeout"])

/-- `Calls names node`: the node is a call of one of `names`. -/
def Calls (names : List String) (node : Node) : Prop :=
  node.kind = .callExpression ∧ ∃ callee, node.field? "function" = some callee ∧
    Denotes names callee

/-- **Suite call**: a call that declares a suite. -/
def IsSuiteCall (node : Node) : Prop :=
  Calls ["describe", "context"] node

/-- **Hook call**: a call that declares a hook or a test. -/
def IsHookCall (node : Node) : Prop :=
  Calls ["before", "beforeEach", "beforeAll", "after", "afterEach", "afterAll", "it", "specify"]
    node

/-- **Plain call**: a call of anything else. -/
def IsPlainCall (node : Node) : Prop :=
  node.kind = .callExpression ∧ (node.field? "function").isSome = true ∧
    ¬ IsSuiteCall node ∧ ¬ IsHookCall node

/-- The file declares a suite: some top-level statement is a suite call. -/
def DeclaresSuite (root : Node) : Prop :=
  ∃ statement ∈ root.namedChildren, statement.kind = .expressionStatement ∧
    ∃ call, statement.namedChildren.head? = some call ∧ IsSuiteCall call

theorem baseName?_eq_some_iff (callee : Node) (base : String) :
    baseName? callee = some base ↔
      (callee.kind = .identifier ∧ callee.text = base) ∨
      (callee.kind = .memberExpression ∧ ∃ object property,
        callee.field? "object" = some object ∧ callee.field? "property" = some property ∧
        object.kind = .identifier ∧ object.text = base ∧
        property.text ∈ ["only", "skip", "timeout"]) := by
  unfold baseName?
  split
  · simp_all
  · rename_i hkind
    split
    · rename_i object property hobject hproperty
      by_cases hcond : object.kind = .identifier ∧ property.text ∈ ["only", "skip", "timeout"]
      · have htest : (object.kind == .identifier && modifiers.contains property.text) = true := by
          simpa [modifiers] using hcond
        rw [if_pos htest]
        simp_all
      · have htest : ¬ (object.kind == .identifier && modifiers.contains property.text) = true := by
          simpa [modifiers] using hcond
        rw [if_neg htest]
        simp_all
    · simp_all
  · simp_all

/-- A callee denotes one of `names` iff its base name is among them. -/
theorem denotes_iff (names : List String) (callee : Node) :
    Denotes names callee ↔ ∃ base ∈ names, baseName? callee = some base := by
  simp only [baseName?_eq_some_iff]
  constructor
  · rintro (⟨hkind, hmem⟩ | ⟨hkind, object, property, ho, hp, hok, hmem, hmod⟩)
    · exact ⟨callee.text, hmem, Or.inl ⟨hkind, rfl⟩⟩
    · exact ⟨object.text, hmem, Or.inr ⟨hkind, object, property, ho, hp, hok, rfl, hmod⟩⟩
  · rintro ⟨base, hmem, ⟨hkind, rfl⟩ | ⟨hkind, object, property, ho, hp, hok, rfl, hmod⟩⟩
    · exact Or.inl ⟨hkind, hmem⟩
    · exact Or.inr ⟨hkind, object, property, ho, hp, hok, hmem, hmod⟩

theorem calleeRole_eq_grouping_iff (callee : Node) :
    calleeRole callee = .grouping ↔ Denotes ["describe", "context"] callee := by
  rw [denotes_iff]
  unfold calleeRole
  cases hbase : baseName? callee with
  | none => simp
  | some base =>
    dsimp only
    split_ifs <;> simp_all [groupingCallees]

theorem calleeRole_eq_lifecycle_iff (callee : Node) :
    calleeRole callee = .lifecycle ↔ Denotes ["before", "beforeEach", "beforeAll", "after",
      "afterEach", "afterAll", "it", "specify"] callee := by
  rw [denotes_iff]
  unfold calleeRole
  cases hbase : baseName? callee with
  | none => simp
  | some base =>
    -- no name is on both lists, so it does not matter which is tried first
    have hdisjoint : ∀ name ∈ lifecycleCallees, groupingCallees.contains name = false := by decide
    dsimp only
    split_ifs with hsuite hhook
    · have hnot : base ∉ lifecycleCallees := by
        intro hmem
        rw [hdisjoint base hmem] at hsuite
        exact Bool.false_ne_true hsuite
      simpa [lifecycleCallees] using hnot
    · simpa [lifecycleCallees] using hhook
    · simpa [lifecycleCallees] using hhook

section

variable {call callee : Node}

theorem isSuiteCall_iff (hkind : call.kind = .callExpression)
    (hcallee : call.field? "function" = some callee) :
    IsSuiteCall call ↔ calleeRole callee = .grouping := by
  rw [calleeRole_eq_grouping_iff]
  unfold IsSuiteCall Calls
  simp [hkind, hcallee]

theorem isHookCall_iff (hkind : call.kind = .callExpression)
    (hcallee : call.field? "function" = some callee) :
    IsHookCall call ↔ calleeRole callee = .lifecycle := by
  rw [calleeRole_eq_lifecycle_iff]
  unfold IsHookCall Calls
  simp [hkind, hcallee]

end

theorem isSuiteFile_iff (root : Node) : isSuiteFile root = true ↔ DeclaresSuite root := by
  unfold isSuiteFile DeclaresSuite
  rw [List.any_eq_true]
  refine exists_congr fun statement => and_congr_right fun _ => ?_
  unfold declaresSuite IsSuiteCall Calls
  simp only [Bool.and_eq_true, beq_iff_eq, ← calleeRole_eq_grouping_iff]
  refine and_congr_right fun _ => ?_
  cases statement.namedChildren.head? with
  | none => simp
  | some call => simp [Option.any_eq_true]

instance (names : List String) (callee : Node) : Decidable (Denotes names callee) :=
  decidable_of_iff _ (denotes_iff names callee).symm

instance (names : List String) (node : Node) : Decidable (Calls names node) :=
  decidable_of_iff
    (node.kind = .callExpression ∧ (node.field? "function").any (fun c => Denotes names c) = true)
    (by unfold Calls; simp [Option.any_eq_true])

instance (node : Node) : Decidable (IsSuiteCall node) :=
  inferInstanceAs (Decidable (Calls _ node))

instance (node : Node) : Decidable (IsHookCall node) :=
  inferInstanceAs (Decidable (Calls _ node))

instance (node : Node) : Decidable (IsPlainCall node) :=
  inferInstanceAs (Decidable (_ ∧ _ ∧ _ ∧ _))

instance (root : Node) : Decidable (DeclaresSuite root) :=
  decidable_of_iff _ (isSuiteFile_iff root)

/-! ### Places -/

/-- **Steps** from a node: the nodes that the rule goes on to, in source order. -/
def steps (node : Node) : List Node :=
  match node.kind with
  | .program =>
    node.namedChildren.filter fun child =>
      [.expressionStatement, .lexicalDeclaration, .variableDeclaration].contains child.kind
  | .callExpression =>
    match node.field? "arguments" with
    | some arguments =>
      if IsSuiteCall node then
        arguments.namedChildren.flatMap fun argument =>
          if argument.kind.isFunctionLiteral then argument.namedChildren else [argument]
      else []
    | none => []
  | .variableDeclarator | .functionDeclaration | .classDeclaration | .classExpression
  | .functionExpression | .arrowFunction | .generatorFunction => []
  | _ => node.namedChildren

/-- **Place**: a node that the rule comes to, and the nodes passed on the way, the last one
first. -/
structure Place where
  /-- The node. -/
  node : Node
  /-- The nodes passed on the way. -/
  above : List Node

/-- `Step p q`: the rule goes on from place `p` to place `q`. -/
def Step (p q : Place) : Prop :=
  q.above = p.node :: p.above ∧ q.node ∈ steps p.node

/-- The places on chains of at most `room` nodes from a place on, in preorder. -/
def placesFrom : (room : Nat) → Place → List Place
  | 0, _ => []
  | room + 1, place =>
    place :: (steps place.node).flatMap fun child =>
      placesFrom room ⟨child, place.node :: place.above⟩

/-- **Reached places**: those on chains of at most 512 nodes from the root. -/
def reached (root : Node) : List Place :=
  placesFrom 512 ⟨root, []⟩

/-- Every step passes one more node. -/
theorem length_above_le {start place : Place} (h : Relation.ReflTransGen Step start place) :
    start.above.length ≤ place.above.length := by
  induction h with
  | refl => exact Nat.le_refl _
  | tail _ hstep ih =>
    rw [hstep.1, List.length_cons]
    omega

/-- A place is listed iff some chain of steps leads to it and it is not too far away. -/
theorem mem_placesFrom_iff (room : Nat) (start place : Place) :
    place ∈ placesFrom room start ↔
      Relation.ReflTransGen Step start place ∧
        place.above.length < start.above.length + room := by
  induction room generalizing start with
  | zero =>
    simp only [placesFrom, List.not_mem_nil, false_iff, not_and]
    intro hreach
    have := length_above_le hreach
    omega
  | succ room ih =>
    rw [placesFrom, List.mem_cons, List.mem_flatMap]
    constructor
    · rintro (rfl | ⟨child, hchild, hmem⟩)
      · exact ⟨.refl, by omega⟩
      · obtain ⟨hreach, hlen⟩ := (ih _).mp hmem
        refine ⟨.head ⟨rfl, hchild⟩ hreach, ?_⟩
        rw [List.length_cons] at hlen
        omega
    · rintro ⟨hreach, hlen⟩
      rcases Relation.ReflTransGen.cases_head hreach with rfl | ⟨next, hstep, hrest⟩
      · exact Or.inl rfl
      · -- the first step leads to one of the children that are listed
        obtain ⟨child, above⟩ := next
        obtain ⟨rfl, hchild⟩ := hstep
        refine Or.inr ⟨child, hchild, (ih _).mpr ⟨hrest, ?_⟩⟩
        rw [List.length_cons]
        omega

/-! ### Findings -/

/-- **Judged parts** at a place: the suspect parts of what the rule judges there. -/
def judgedParts (settings : ClassifierSettings) (place : Place) : List Node :=
  match place.node.kind with
  | .variableDeclarator => Tree.suspectParts settings (place.node.field? "value")
  | .callExpression =>
    if IsPlainCall place.node ∧ ∃ passed ∈ place.above, IsSuiteCall passed then
      Tree.suspectParts settings (some place.node)
    else []
  | _ => []

/-- **What one report yields**: the finding, unless a directive allows it; then nothing, or a
warning where the directive gives no reason. -/
def finding (file : SourceFile) (node : Node) : List Diagnostic :=
  let location := file.locate node.start node.width
  match Allowance.check file.content location.line "no-side-effect-code" with
  | .denied =>
    [{ code := "TL001", rule := "no-side-effect-code", severity := .error, location := location
       message := "Do not initialize variables in a test suite body; use a lifecycle hook instead: "
         ++ Text.fragment node.text 30
       suggestion := some "Move this code into a before() or beforeEach() hook" }]
  | .allowed none =>
    [{ code := "TL001", rule := "no-side-effect-code", severity := .warning, location := location
       message := "Allow directive for 'no-side-effect-code' is missing required reason"
       suggestion := some "Add reason=\"...\" to explain why this exception is necessary" }]
  | .allowed (some _) => []

/-- The findings at a place: one report for every judged part. -/
def findingsAt (settings : ClassifierSettings) (file : SourceFile) (place : Place) :
    List Diagnostic :=
  (judgedParts settings place).flatMap fun _ => finding file place.node

theorem outcome_start (file : SourceFile) (node : Node) :
    (start file).reporter.outcome node (Reporter.quoting introduction node)
      = finding file node := by
  unfold Reporter.outcome finding
  dsimp only [start, name]
  split <;> rename_i hcheck
  · rw [hcheck]
    rfl
  · rename_i reason
    rw [hcheck]
    cases reason <;> rfl

/-! ### The rule's plans -/

/-- The plan of a check reports its anchor once for every suspect part. -/
theorem run_check (walk : Node → Context Unit → Context Unit) (settings : ClassifierSettings)
    (anchor : Node) (expr : Option Node) (cx : Context Unit) :
    (check settings anchor expr).run walk cx
      = (.ok (), { cx with reporter :=
          cx.reporter.adding ((Tree.suspectParts settings expr).flatMap fun _ =>
            cx.reporter.outcome anchor (Reporter.quoting introduction anchor)) }) :=
  Plan.run_each_report walk anchor _ _ cx

/-- The plan for the arguments of a suite call walks the nodes that the call steps to. -/
theorem run_suiteArguments (walk : Node → Context Unit → Context Unit) {call arguments : Node}
    (h : call.field? "arguments" = some arguments) (cx : Context Unit) :
    (suiteArguments call).run walk cx
      = (.ok (), Walk.walkAll walk (arguments.namedChildren.flatMap fun argument =>
          if argument.kind.isFunctionLiteral then argument.namedChildren else [argument]) cx) := by
  unfold suiteArguments Walk.requireField
  rw [h]
  show (Plan.each _ arguments.namedChildren).run walk cx = _
  refine Plan.run_each_walkAll _ (fun argument cx' => ?_) arguments.namedChildren cx
  split_ifs
  · exact Plan.run_visitChildren walk argument cx'
  · rfl

theorem ownTokens_check (settings : ClassifierSettings) (anchor : Node) (expr : Option Node)
    (held : List Walk.ScopeToken) : (check settings anchor expr).OwnTokens held :=
  .each fun _ _ => trivial

theorem ownTokens_suiteArguments (call : Node) (held : List Walk.ScopeToken) :
    (suiteArguments call).OwnTokens held := by
  refine (Plan.ownTokens_ofExcept _ held).bind fun arguments => .each fun argument _ => ?_
  split_ifs
  · exact Plan.ownTokens_visitChildren argument held
  · trivial

theorem ownTokens_callPlan (settings : ClassifierSettings) (call : Node) :
    (callPlan settings call).OwnTokens [] := by
  refine (Plan.ownTokens_ofExcept _ []).bind fun callee => ?_
  split
  · intro token
    exact (ownTokens_suiteArguments call [token]).bind fun _ => ⟨List.mem_cons_self, trivial⟩
  · trivial
  · intro inside
    cases inside with
    | true => exact ownTokens_check settings call (some call) []
    | false => trivial

/-- The visitor of the rule leaves scopes only by its own tokens. -/
theorem visitor_ownTokens (settings : ClassifierSettings) : (visitor settings).OwnTokens := by
  refine Visitor.ownTokens_of_handlers (fun node => .each fun _ _ => trivial)
    (ownTokens_callPlan settings) (fun node => Plan.ownTokens_visitChildren node [])
    (fun node => ownTokens_check settings node _ []) (fun node => trivial) (fun node => trivial)
    (fun node => ?_)
  show (if node.kind.isFunctionLiteral then _ else _ : Plan Unit Unit).OwnTokens []
  split_ifs
  · trivial
  · exact Plan.ownTokens_visitChildren node []

/-! ### The walk -/

/-- **Ready context** for a place: it reports on the file, and the scope of suites is open iff a
suite call was passed on the way. -/
structure Ready (file : SourceFile) (above : List Node) (cx : Context Unit) : Prop where
  /-- The reporter is that of the rule, with some diagnostics. -/
  reporter : ∃ ds, cx.reporter = (start file).reporter.adding ds
  /-- The scope is open iff a suite call was passed. -/
  inside : cx.scopes.isActive groupingScope = true ↔ ∃ passed ∈ above, IsSuiteCall passed

section

variable {settings : ClassifierSettings} {file : SourceFile} {place : Place} {above : List Node}
  {cx : Context Unit}

theorem Ready.outcome_eq (h : Ready file above cx) (node : Node) :
    cx.reporter.outcome node (Reporter.quoting introduction node) = finding file node := by
  obtain ⟨ds, hds⟩ := h.reporter
  rw [hds, Reporter.outcome_adding, outcome_start]

/-- A node that is no suite call leaves the question as it is. -/
theorem Ready.pass {node : Node} (h : Ready file above cx) (hnode : ¬ IsSuiteCall node) :
    Ready file (node :: above) cx := by
  refine ⟨h.reporter, ?_⟩
  rw [h.inside]
  simp [hnode]

/-- Entering the scope at a suite call keeps the context ready. -/
theorem Ready.enter {call : Node} (h : Ready file above cx) (hcall : IsSuiteCall call) :
    Ready file (call :: above) { cx with scopes := (cx.scopes.enter groupingScope).1 } := by
  refine ⟨h.reporter, iff_of_true ?_ ⟨call, List.mem_cons_self, hcall⟩⟩
  show decide (0 < (cx.scopes.tally.raise groupingScope).count groupingScope) = true
  rw [Walk.Tally.count_raise, if_pos rfl]
  simp

/-- A walk that adds diagnostics and puts the scopes back keeps the context ready. -/
theorem Ready.walked {after : Context Unit} {ds : List Diagnostic} (h : Ready file above cx)
    (hscopes : after.scopes.Agrees cx.scopes) (hreporter : after.reporter = cx.reporter.adding ds) :
    Ready file above after := by
  obtain ⟨ds', hds'⟩ := h.reporter
  refine ⟨⟨ds' ++ ds, ?_⟩, ?_⟩
  · rw [hreporter, hds', Reporter.adding_adding]
  · rw [hscopes.isActive, h.inside]

/-- Only declarators and calls are judged. -/
theorem findingsAt_eq_nil (hdeclarator : place.node.kind ≠ .variableDeclarator)
    (hcall : place.node.kind ≠ .callExpression) : findingsAt settings file place = [] := by
  have hparts : judgedParts settings place = [] := by
    unfold judgedParts
    split
    · contradiction
    · contradiction
    · rfl
  rw [findingsAt, hparts, List.flatMap_nil]

/-- The steps from a node at which no handler of its own is called. -/
theorem steps_eq_namedChildren {node : Node} (hprogram : node.kind ≠ .program)
    (hcall : node.kind ≠ .callExpression) (hdeclarator : node.kind ≠ .variableDeclarator)
    (hboundary : node.kind.isScopeBoundary = false)
    (hliteral : node.kind.isFunctionLiteral = false) : steps node = node.namedChildren := by
  unfold steps
  split <;> simp_all [Kind.isScopeBoundary, Kind.isFunctionLiteral]

theorem steps_eq_nil {node : Node}
    (h : node.kind.isScopeBoundary = true ∨ node.kind.isFunctionLiteral = true) :
    steps node = [] := by
  unfold steps
  split <;> simp_all [Kind.isScopeBoundary, Kind.isFunctionLiteral]

end

/-! ### One node

A handler is run with some `walk` for the nodes below, of which it is assumed what the induction on
the room will give (`AddsBelow`). -/

/-- From a context that is ready for what lies below the place, walking the steps from its node adds
the `findings` of each. -/
def AddsBelow (file : SourceFile) (walk : Node → Context Unit → Context Unit)
    (findings : Node → List Diagnostic) (place : Place) : Prop :=
  ∀ cx, Ready file (place.node :: place.above) cx →
    (Walk.walkAll walk (steps place.node) cx).reporter
      = cx.reporter.adding ((steps place.node).flatMap findings)

section

variable {settings : ClassifierSettings} {file : SourceFile} {place : Place} {cx : Context Unit}
  {walk : Node → Context Unit → Context Unit} {findings : Node → List Diagnostic}

/-- At a node that is neither judged nor a call, what is walked is all that is added. -/
theorem run_walking {plan : Plan Unit Unit} (h : Ready file place.above cx)
    (hwalk : AddsBelow file walk findings place)
    (hdeclarator : place.node.kind ≠ .variableDeclarator)
    (hcall : place.node.kind ≠ .callExpression)
    (hplan : plan.run walk cx = (.ok (), Walk.walkAll walk (steps place.node) cx)) :
    (plan.run walk cx).2.reporter
      = cx.reporter.adding
          (findingsAt settings file place ++ (steps place.node).flatMap findings) := by
  have hsuite : ¬ IsSuiteCall place.node := fun hsuite => hcall hsuite.1
  rw [hplan, findingsAt_eq_nil hdeclarator hcall, List.nil_append]
  exact hwalk cx (h.pass hsuite)

/-- **A declarator**: the initialiser is judged. -/
theorem run_declarator (h : Ready file place.above cx)
    (hkind : place.node.kind = .variableDeclarator) :
    ((check settings place.node (place.node.field? "value")).run walk cx).2.reporter
      = cx.reporter.adding
          (findingsAt settings file place ++ (steps place.node).flatMap findings) := by
  have hsteps : steps place.node = [] := by
    rw [steps, hkind]
  have hparts : judgedParts settings place
      = Tree.suspectParts settings (place.node.field? "value") := by
    rw [judgedParts, hkind]
  rw [run_check, h.outcome_eq, hsteps, List.flatMap_nil, List.append_nil, findingsAt, hparts]

/-- From a call that is no suite call the rule goes nowhere. -/
theorem steps_call {call : Node} (hkind : call.kind = .callExpression)
    (hsuite : ¬ IsSuiteCall call) : steps call = [] := by
  rw [steps, hkind]
  dsimp only
  cases call.field? "arguments" with
  | none => rfl
  | some arguments => exact if_neg hsuite

/-- **A suite call**: its arguments are walked inside the scope, and nothing is judged. -/
theorem run_suiteCall (h : Ready file place.above cx)
    (hwalk : AddsBelow file walk findings place)
    (hkind : place.node.kind = .callExpression) (hsuite : IsSuiteCall place.node) :
    ((Plan.enter groupingScope fun token =>
        (suiteArguments place.node).bind fun _ => .leave token (.done ())).run walk cx).2.reporter
      = cx.reporter.adding
          (findingsAt settings file place ++ (steps place.node).flatMap findings) := by
  have hparts : judgedParts settings place = [] := by
    rw [judgedParts, hkind]
    exact if_neg fun hplain => hplain.1.2.2.1 hsuite
  rw [findingsAt, hparts, List.flatMap_nil, List.nil_append, Plan.run]
  dsimp only
  rw [Plan.run_bind]
  cases hargs : place.node.field? "arguments" with
  | none =>
    -- without arguments the handler fails right after entering
    have hsteps : steps place.node = [] := by
      rw [steps, hkind]
      dsimp only
      rw [hargs]
    rw [hsteps, List.flatMap_nil, Reporter.adding_nil, suiteArguments, Walk.requireField, hargs]
    rfl
  | some arguments =>
    have hsteps : steps place.node = arguments.namedChildren.flatMap fun argument =>
        if argument.kind.isFunctionLiteral then argument.namedChildren else [argument] := by
      rw [steps, hkind]
      dsimp only
      rw [hargs]
      exact if_pos hsuite
    rw [run_suiteArguments walk hargs, ← hsteps]
    -- leaving the scope afterwards does not touch the reports
    exact hwalk _ (h.enter hsuite)

/-- **A plain call**: it is judged where a suite call was passed. -/
theorem run_plainCall (h : Ready file place.above cx)
    (hkind : place.node.kind = .callExpression) (hplain : IsPlainCall place.node) :
    ((Plan.isActive groupingScope fun inside =>
        if inside then check settings place.node (some place.node)
        else .done ()).run walk cx).2.reporter
      = cx.reporter.adding
          (findingsAt settings file place ++ (steps place.node).flatMap findings) := by
  rw [steps_call hkind hplain.2.2.1, List.flatMap_nil, List.append_nil, findingsAt, judgedParts,
    hkind, Plan.run]
  dsimp only
  by_cases hpassed : ∃ passed ∈ place.above, IsSuiteCall passed
  · rw [if_pos (h.inside.mpr hpassed), if_pos ⟨hplain, hpassed⟩, run_check, h.outcome_eq]
  · rw [if_neg fun hactive => hpassed (h.inside.mp hactive), if_neg fun hboth => hpassed hboth.2,
      List.flatMap_nil, Reporter.adding_nil]
    rfl

/-- **A call** of any sort. -/
theorem run_callPlan (h : Ready file place.above cx)
    (hwalk : AddsBelow file walk findings place)
    (hkind : place.node.kind = .callExpression) :
    ((callPlan settings place.node).run walk cx).2.reporter
      = cx.reporter.adding
          (findingsAt settings file place ++ (steps place.node).flatMap findings) := by
  -- a call that is neither suite call nor plain adds nothing
  have hquiet : ¬ IsSuiteCall place.node → ¬ IsPlainCall place.node → cx.reporter
      = cx.reporter.adding
          (findingsAt settings file place ++ (steps place.node).flatMap findings) := by
    intro hsuite hplain
    rw [steps_call hkind hsuite, findingsAt, judgedParts, hkind]
    dsimp only
    rw [if_neg fun hboth => hplain hboth.1, List.flatMap_nil, List.flatMap_nil, List.append_nil,
      Reporter.adding_nil]
  unfold callPlan Walk.requireField
  cases hcallee : place.node.field? "function" with
  | none =>
    refine hquiet ?_ ?_
    · rintro ⟨-, callee, hsome, -⟩
      rw [hcallee] at hsome
      contradiction
    · rintro ⟨-, hsome, -⟩
      rw [hcallee] at hsome
      contradiction
  | some callee =>
    have hsuite := isSuiteCall_iff hkind hcallee
    have hhook := isHookCall_iff hkind hcallee
    dsimp only [Plan.ofExcept, Plan.bind]
    cases hrole : calleeRole callee with
    | grouping => exact run_suiteCall h hwalk hkind (hsuite.mpr hrole)
    | lifecycle =>
      refine hquiet ?_ ?_
      · rw [hsuite, hrole]
        decide
      · exact fun hplain => hplain.2.2.2 (hhook.mpr hrole)
    | other =>
      refine run_plainCall h hkind ⟨hkind, by rw [hcallee]; rfl, ?_, ?_⟩
      · rw [hsuite, hrole]
        decide
      · rw [hhook, hrole]
        decide

/-- At a node that is neither judged nor left, the handler adds nothing. -/
theorem run_done (h : Ready file place.above cx) (hwalk : AddsBelow file walk findings place)
    (hkind : place.node.kind.isScopeBoundary = true ∨ place.node.kind.isFunctionLiteral = true) :
    ((Plan.done () : Plan Unit Unit).run walk cx).2.reporter
      = cx.reporter.adding
          (findingsAt settings file place ++ (steps place.node).flatMap findings) := by
  have hne : ∀ kind : Kind, kind.isScopeBoundary = false → kind.isFunctionLiteral = false →
      place.node.kind ≠ kind := by
    rintro kind hboundary hliteral rfl
    simp [hboundary, hliteral] at hkind
  refine run_walking h hwalk (hne _ rfl rfl) (hne _ rfl rfl) ?_
  rw [steps_eq_nil hkind]
  rfl

/-- **Any node**: its handler adds the findings at the place and those below. -/
theorem run_handle (h : Ready file place.above cx) (hwalk : AddsBelow file walk findings place) :
    (((visitor settings).handle place.node).run walk cx).2.reporter
      = cx.reporter.adding
          (findingsAt settings file place ++ (steps place.node).flatMap findings) := by
  unfold Visitor.handle
  split <;> rename_i hkind
  · -- the root of the file
    have hsteps : steps place.node = place.node.namedChildren.filter isWalkedStatement := by
      rw [steps, hkind]
      refine List.filter_congr fun child _ => ?_
      unfold isWalkedStatement
      cases child.kind <;> rfl
    refine run_walking h hwalk (by simp [hkind]) (by simp [hkind]) ?_
    rw [hsteps]
    exact Plan.run_each_visit walk _ cx
  · exact run_callPlan h hwalk hkind
  · -- a construction
    have hsteps : steps place.node = place.node.namedChildren := by
      rw [steps, hkind]
    refine run_walking h hwalk (by simp [hkind]) (by simp [hkind]) ?_
    rw [hsteps]
    exact Plan.run_visitChildren walk _ cx
  · exact run_declarator h hkind
  · exact run_done h hwalk (Or.inl (by rw [hkind]; rfl))
  · exact run_done h hwalk (Or.inl (by rw [hkind]; rfl))
  · exact run_done h hwalk (Or.inl (by rw [hkind]; rfl))
  · -- anything else: a function literal is not entered
    rename_i hprogram hcall hnew hdeclarator hfunction hclass
    show ((if place.node.kind.isFunctionLiteral then .done () else Plan.visitChildren place.node :
      Plan Unit Unit).run walk cx).2.reporter = _
    split_ifs with hliteral
    · exact run_done h hwalk (Or.inr hliteral)
    · have hboundary : place.node.kind.isScopeBoundary = false := by
        unfold Kind.isScopeBoundary
        split <;> simp_all
      refine run_walking h hwalk hdeclarator hcall ?_
      rw [steps_eq_namedChildren hprogram hcall hdeclarator hboundary (by simpa using hliteral)]
      exact Plan.run_visitChildren walk _ cx

end

/-! ### The whole walk -/

/-- **Walking a node** with some room adds the findings at the places that are as near. -/
theorem visit_reporter (settings : ClassifierSettings) {file : SourceFile} (room : Nat)
    (place : Place) {cx : Context Unit} (h : Ready file place.above cx) :
    (Walk.visit (visitor settings) room place.node cx).reporter
      = cx.reporter.adding ((placesFrom room place).flatMap (findingsAt settings file)) := by
  induction room generalizing place cx with
  | zero =>
    rw [placesFrom, List.flatMap_nil, Reporter.adding_nil]
    rfl
  | succ room ih =>
    -- what is added at a child, by the induction hypothesis
    let below : Node → List Diagnostic := fun child =>
      (placesFrom room ⟨child, place.node :: place.above⟩).flatMap (findingsAt settings file)
    have hchild : ∀ child cx', Ready file (place.node :: place.above) cx' →
        (Walk.visit (visitor settings) room child cx').reporter
          = cx'.reporter.adding (below child) :=
      fun child cx' hcx' => ih ⟨child, place.node :: place.above⟩ hcx'
    have hbelow : AddsBelow file (Walk.visit (visitor settings) room) below place := by
      intro cx' hcx'
      refine Walk.walkAll_reporter (fun child _ cx'' hcx'' => ?_) (fun child _ => hchild child) hcx'
      -- the walk of a child puts the scopes back, so the next child finds them as they were
      have hrestored := Walk.visit_restores (visitor_ownTokens settings) room child cx''
      exact hcx''.walked hrestored.scopes (hchild child cx'' hcx'')
    -- entering a node changes neither reports nor scopes
    have hentered : Ready file place.above cx.entered := ⟨h.reporter, h.inside⟩
    rw [Walk.visit_succ, Context.settle_reporter, run_handle hentered hbelow, placesFrom,
      List.flatMap_cons, List.flatMap_assoc]
    rfl

/-- The context that the rule starts from is ready for the root. -/
theorem ready_start (file : SourceFile) : Ready file [] (start file) := by
  refine ⟨⟨[], (Reporter.adding_nil _).symm⟩, ?_⟩
  simp only [List.not_mem_nil, false_and, exists_false, iff_false]
  show ¬ ({} : Walk.ScopeTracker).isActive groupingScope = true
  decide

/-- The findings of a run are those at the reached places, in a file that declares a suite. -/
theorem apply_eq_flatMap (settings : ClassifierSettings) (file : SourceFile) (tree : SyntaxTree) :
    apply settings file tree
      = if isSuiteFile tree.root then (reached tree.root).flatMap (findingsAt settings file)
        else [] := by
  unfold apply
  split_ifs
  · have hwalk := visit_reporter settings 512 ⟨tree.root, []⟩ (ready_start file)
    show (Walk.visit (visitor settings) 512 tree.root (start file)).reporter.diagnostics = _
    rw [hwalk]
    exact List.nil_append _
  · rfl

/-- **What the rule reports**, on every tree.  In a file that declares a suite it is the findings at
the reached places, in preorder, and in any other file nothing; a place is reached iff at most 511
steps from the root lead to it. -/
theorem apply_eq_findings (settings : ClassifierSettings) (file : SourceFile) (tree : SyntaxTree) :
    apply settings file tree
        = (if DeclaresSuite tree.root then
            (reached tree.root).flatMap (findingsAt settings file)
          else []) ∧
      ∀ place, place ∈ reached tree.root ↔
        Relation.ReflTransGen Step ⟨tree.root, []⟩ place ∧ place.above.length ≤ 511 := by
  constructor
  · simp only [apply_eq_flatMap, isSuiteFile_iff]
  · intro place
    unfold reached
    rw [mem_placesFrom_iff]
    refine and_congr_right fun _ => ?_
    simp only [List.length_nil]
    omega

end SuiteLint.SideEffectCode
