import SuiteLint.Proofs.Rule.SuiteBody
import SuiteLint.Proofs.Walk.Isolation
import SuiteLint.Rule.StatelessClass

/-!
# Faults do not reach siblings

The visitors of both rules are insular (`SideEffectCode.visitor_insular`,
`StatelessClass.visitor_insular`), so that what `Proofs.Walk.Isolation` says of insular visitors
holds of them.  `visitChildren_isolated` puts it together: the children of a node contribute what
each of them contributes alone, and when one child is exchanged, or handled differently, only its
own part changes.
-/

namespace SuiteLint

open SuiteLint.Tree (Node ClassifierSettings)
open SuiteLint.Walk (Context Contribution Plan Step Visitor walkNode contribution)

/-! ### The visitors of the rules -/

namespace SideEffectCode

theorem only_check (settings : ClassifierSettings) (anchor : Node) (expr : Option Node) :
    (check settings anchor expr).Only Step.Insular :=
  .each fun _ _ => ⟨trivial, trivial⟩

theorem only_suiteArguments (call : Node) : (suiteArguments call).Only Step.Insular := by
  refine (Plan.only_ofExcept _ _).bind fun arguments => .each fun argument _ => ?_
  split_ifs
  · exact Plan.only_visitChildren (fun _ => trivial) argument
  · exact ⟨trivial, trivial⟩

theorem only_callPlan (settings : ClassifierSettings) (call : Node) :
    (callPlan settings call).Only Step.Insular := by
  refine (Plan.only_ofExcept _ _).bind fun callee => ?_
  split
  · exact ⟨trivial, fun token => (only_suiteArguments call).bind fun _ => ⟨trivial, trivial⟩⟩
  · trivial
  · refine ⟨trivial, fun inside => ?_⟩
    cases inside with
    | true => exact only_check settings call (some call)
    | false => trivial

/-- The visitor of the rule on side-effect code is insular. -/
theorem visitor_insular (settings : ClassifierSettings) : (visitor settings).Insular := by
  refine ⟨visitor_ownTokens settings, Visitor.forall_handle _ (fun node => ?_)
    (only_callPlan settings) (Plan.only_visitChildren fun _ => trivial)
    (fun node => only_check settings node _) (fun node => trivial) (fun node => trivial)
    (fun node => ?_)⟩
  · exact .each fun _ _ => ⟨trivial, trivial⟩
  · show (if node.kind.isFunctionLiteral then _ else _ : Plan Unit Unit).Only Step.Insular
    split_ifs
    · trivial
    · exact Plan.only_visitChildren (fun _ => trivial) node

end SideEffectCode

namespace StatelessClass

theorem ownTokens_classPlan (cls : Node) : (classPlan cls).OwnTokens [] := by
  refine (Plan.ownTokens_ofExcept _ []).bind fun body => ?_
  split_ifs
  · exact Plan.ownTokens_visitChildren cls []
  · exact Plan.ownTokens_visitChildren cls []

theorem only_classPlan (cls : Node) : (classPlan cls).Only Step.Insular := by
  have hchildren : (Plan.visitChildren cls : Plan Unit Unit).Only Step.Insular :=
    Plan.only_visitChildren (fun _ => trivial) cls
  refine (Plan.only_ofExcept _ _).bind fun body => ?_
  split_ifs
  · exact ⟨trivial, hchildren⟩
  · exact hchildren

/-- The visitor of the rule on stateless classes is insular. -/
theorem visitor_insular : visitor.Insular := by
  have htokens : ∀ node, (Plan.visitChildren node : Plan Unit Unit).OwnTokens [] :=
    fun node => Plan.ownTokens_visitChildren node []
  have hsteps : ∀ node, (Plan.visitChildren node : Plan Unit Unit).Only Step.Insular :=
    Plan.only_visitChildren fun _ => trivial
  exact ⟨Visitor.ownTokens_of_handlers htokens htokens htokens htokens
      (fun node => Walk.ownTokens_scopePlan true node []) ownTokens_classPlan htokens,
    Visitor.forall_handle _ hsteps hsteps hsteps hsteps
      (Walk.only_scopePlan (fun _ => trivial) true) only_classPlan hsteps⟩

end StatelessClass

/-! ### Isolation -/

namespace Walk

/-- **Siblings are isolated** from each other, for every insular visitor, the visitors of both rules
among them.  From any context, walking the children of a node ends well, and contributes what each
child contributes alone, in order.

Moreover let one child be exchanged for any other one, and let the handlers be changed too, though
not in a territory that has all the siblings in it and that is not left from them.  Then the parts
of the siblings, those before and those after, are the same as before. -/
theorem visitChildren_isolated :
    (∀ settings, (SideEffectCode.visitor settings).Insular) ∧ StatelessClass.visitor.Insular ∧
      ∀ (σ : Type) (v : Visitor σ), v.Insular → ∀ (node : Node) (cx : Context σ),
        (∃ after, (Plan.visitChildren node).run (walkNode v) cx = (.ok (), after) ∧
          cx.Gains (.total (node.namedChildren.map (contribution v cx))) after) ∧
        ∀ (w : Visitor σ) (node' : Node) (before later : List Node) (child child' : Node)
          (territory : Node → Prop), w.Insular → v.SameOn w territory →
          (∀ sibling ∈ before ++ later, territory sibling) →
          node.namedChildren = before ++ child :: later →
          node'.namedChildren = before ++ child' :: later →
          let early : Contribution := .total (before.map (contribution v cx))
          let late : Contribution := .total (later.map (contribution v cx))
          ∃ after after', (Plan.visitChildren node).run (walkNode v) cx = (.ok (), after) ∧
            (Plan.visitChildren node').run (walkNode w) cx = (.ok (), after') ∧
            cx.Gains (early ++ (contribution v cx child ++ late)) after ∧
            cx.Gains (early ++ (contribution w cx child' ++ late)) after' := by
  refine ⟨SideEffectCode.visitor_insular, StatelessClass.visitor_insular, ?_⟩
  intro σ v hv node cx
  refine ⟨run_visitChildren_gains hv node cx, ?_⟩
  intro w node' before later child child' territory hw hsame hsiblings hchildren hchildren'
  intro early late
  obtain ⟨after, hrun, hgains⟩ := run_visitChildren_gains hv node cx
  obtain ⟨after', hrun', hgains'⟩ := run_visitChildren_gains hw node' cx
  refine ⟨after, after', hrun, hrun', ?_, ?_⟩
  · rw [hchildren, List.map_append, List.map_cons, Contribution.total_append,
      Contribution.total_cons] at hgains
    exact hgains
  · -- alone, a sibling contributes the same with either visitor
    have hsibling : ∀ siblings : List Node, siblings ⊆ before ++ later →
        siblings.map (contribution w cx) = siblings.map (contribution v cx) := by
      intro siblings hsub
      refine List.map_congr_left fun sibling hmem => ?_
      exact contribution_eq_of_sameOn hsame (hsiblings sibling (hsub hmem)) cx
    rw [hchildren', List.map_append, List.map_cons, Contribution.total_append,
      Contribution.total_cons, hsibling before (List.subset_append_left _ _),
      hsibling later (List.subset_append_right _ _)] at hgains'
    exact hgains'

/-- The forgetful visitor is insular, although it faults at every call. -/
theorem forgetful_insular : forgetful.Insular := by
  have hsteps : ∀ node, (Plan.visitChildren node : Plan Unit Unit).Only Step.Insular :=
    Plan.only_visitChildren fun _ => trivial
  exact ⟨forgetful_ownTokens, Visitor.forall_handle _ hsteps
    (fun node => ⟨trivial, fun _ => (hsteps node).bind fun _ => trivial⟩) hsteps hsteps
    (only_scopePlan (fun _ => trivial) false) (only_scopePlan (fun _ => trivial) false) hsteps⟩

/-- The name `x`. -/
def letterName (start : Nat) : Node :=
  { label := "identifier", start := start, stop := start + 1, named := true, field := none
    text := "x", children := [] }

/-- The call `f()` between two names. -/
def callBetweenNames : Node :=
  { label := "statement_block", start := 0, stop := 8, named := true, field := none
    text := "x;f();x;"
    children :=
      [letterName 0,
       { label := "call_expression", start := 2, stop := 5, named := true, field := none
         text := "f()", children := [] },
       letterName 6] }

/-- One level above the limit, inside a scope, the forgetful visitor faults at a call and another
visitor does not.  The names before and after the call are met by both. -/
theorem visitChildren_isolated_callBetweenNames :
    let cx : Context Unit :=
      { scopes := { stack := ["group"], tally := [("group", 1)] }
        reporter :=
          { file := { shown := ⟨"walk.ts"⟩, content := "x;f();x;" }, code := "TL999"
            rule := "script", severity := .warning }
        depth := 511, memory := () }
    let territory : Node → Prop := fun node => ∃ start, node = letterName start
    forgetful.Insular ∧ StatelessClass.visitor.Insular ∧
      forgetful.SameOn StatelessClass.visitor territory ∧
      ∃ after after',
        (Plan.visitChildren callBetweenNames).run (walkNode forgetful) cx = (.ok (), after) ∧
        (Plan.visitChildren callBetweenNames).run (walkNode StatelessClass.visitor) cx
          = (.ok (), after') ∧
        after.faults
          = [.malformed "call_expression" 2 "group always fails after walking"] ∧
        after'.faults = [] ∧ after.visited = 3 ∧ after'.visited = 3 := by
  intro cx territory
  have hsame : forgetful.SameOn StatelessClass.visitor territory := by
    rintro node ⟨start, rfl⟩
    exact ⟨rfl, trivial⟩
  have hnames : ∀ sibling ∈ [letterName 0] ++ [letterName 6], territory sibling := by
    rw [List.forall_mem_append, List.forall_mem_singleton, List.forall_mem_singleton]
    exact ⟨⟨0, rfl⟩, ⟨6, rfl⟩⟩
  obtain ⟨_, hclasses, hisolated⟩ := visitChildren_isolated
  obtain ⟨after, after', hrun, hrun', hgains, hgains'⟩ :=
    (hisolated Unit forgetful forgetful_insular callBetweenNames cx).2 StatelessClass.visitor
      callBetweenNames [letterName 0] [letterName 6] _ _ territory hclasses hsame hnames rfl rfl
  exact ⟨forgetful_insular, hclasses, hsame, after, after', hrun, hrun', hgains.faults,
    hgains'.faults, hgains.visited, hgains'.visited⟩

end Walk

end SuiteLint
