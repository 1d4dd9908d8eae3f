import SuiteLint.Proofs.Walk.Balance

/-!
# What plans add to a context

Handlers are put together from a few kinds of plans: walking the nodes of a list, reporting, and one
plan after another.  This module says what running each of them does to a context, so that the
proofs about rules need not look into `Plan.run`.  A list of nodes is walked by `walkAll`, one after
the other.  Reports are only ever appended (`Reporter.adding`), and what a report yields does not
depend on those before it.
-/

namespace SuiteLint

open SuiteLint.Tree (Node)

/-! ### Reporters -/

namespace Reporter

/-- A reporter with some more diagnostics at the end. -/
def adding (r : Reporter) (ds : List Diagnostic) : Reporter :=
  { r with diagnostics := r.diagnostics ++ ds }

theorem adding_nil (r : Reporter) : r.adding [] = r := by
  unfold adding
  rw [List.append_nil]

theorem adding_adding (r : Reporter) (ds ds' : List Diagnostic) :
    (r.adding ds).adding ds' = r.adding (ds ++ ds') := by
  unfold adding
  rw [List.append_assoc]

theorem outcome_adding (r : Reporter) (ds : List Diagnostic) (node : Node) (message : String) :
    (r.adding ds).outcome node message = r.outcome node message :=
  rfl

theorem reportMessage_eq_adding (r : Reporter) (node : Node) (message : String) :
    r.reportMessage node message = r.adding (r.outcome node message) :=
  rfl

end Reporter

namespace Walk

variable {σ α β : Type}

/-! ### Running plans -/

/-- **One plan after another**: the second starts where the first ended well. -/
theorem Plan.run_bind (walk : Node → Context σ → Context σ) (p : Plan σ α) (f : α → Plan σ β)
    (cx : Context σ) :
    (p.bind f).run walk cx = match p.run walk cx with
      | (.ok a, after) => (f a).run walk after
      | (.error fault, after) => (.error fault, after) := by
  induction p generalizing cx with
  | done | fail => rfl
  | enter name next ih | isActive name next ih => exact ih _ _
  | leave token next ih | restore target next ih | suggest text next ih => exact ih _
  | scopeDepth next ih | faultCount next ih | inspect next ih => exact ih _ _
  | report node message next ih => exact ih _
  | visit node next ih => exact ih _
  | remember memory next ih => exact ih _

/-- Walks the nodes of a list, one after the other. -/
def walkAll (walk : Node → Context σ → Context σ) (nodes : List Node) (cx : Context σ) :
    Context σ :=
  nodes.foldl (fun cx node => walk node cx) cx

theorem walkAll_append (walk : Node → Context σ → Context σ) (nodes nodes' : List Node)
    (cx : Context σ) :
    walkAll walk (nodes ++ nodes') cx = walkAll walk nodes' (walkAll walk nodes cx) :=
  List.foldl_append

/-- A plan for every element of a list walks all the nodes that the single plans walk. -/
theorem Plan.run_each_walkAll {walk : Node → Context σ → Context σ} {f : α → Plan σ Unit}
    (nodesOf : α → List Node)
    (hf : ∀ a cx, (f a).run walk cx = (.ok (), walkAll walk (nodesOf a) cx)) (as : List α)
    (cx : Context σ) :
    (each f as).run walk cx = (.ok (), walkAll walk (as.flatMap nodesOf) cx) := by
  induction as generalizing cx with
  | nil => rfl
  | cons a rest ih =>
    rw [each, run_bind, hf, List.flatMap_cons, walkAll_append]
    exact ih _

theorem Plan.run_each_visit (walk : Node → Context σ → Context σ) (nodes : List Node)
    (cx : Context σ) :
    (each (fun node => visit node (done ())) nodes).run walk cx
      = (.ok (), walkAll walk nodes cx) := by
  rw [run_each_walkAll (fun node => [node]) (fun _ _ => rfl), List.flatMap_singleton']

theorem Plan.run_visitChildren (walk : Node → Context σ → Context σ) (node : Node)
    (cx : Context σ) :
    (visitChildren node).run walk cx = (.ok (), walkAll walk node.namedChildren cx) :=
  run_each_visit walk node.namedChildren cx

/-- Reporting a node once for every element of a list adds as many outcomes of the report. -/
theorem Plan.run_each_report (walk : Node → Context σ → Context σ) (anchor : Node)
    (message : String) (as : List α) (cx : Context σ) :
    (each (fun _ => report anchor message (done ())) as).run walk cx
      = (.ok (), { cx with reporter :=
          cx.reporter.adding (as.flatMap fun _ => cx.reporter.outcome anchor message) }) := by
  induction as generalizing cx with
  | nil =>
    rw [List.flatMap_nil, Reporter.adding_nil]
    rfl
  | cons a rest ih =>
    rw [each, run_bind, run, run]
    dsimp only
    rw [ih, Reporter.reportMessage_eq_adding, Reporter.outcome_adding, Reporter.adding_adding,
      List.flatMap_cons]

/-! ### What walks add to the reports -/

theorem Context.settle_reporter (cx : Context σ) (outcome : Except Fault Unit × Context σ) :
    (cx.settle outcome).reporter = outcome.2.reporter := by
  obtain ⟨result, after⟩ := outcome
  cases result <;> rfl

/-- If walking a node adds `findings` of it to the reports, from every context of a certain kind and
into another one of that kind, then walking a list adds those of its nodes in order. -/
theorem walkAll_reporter {walk : Node → Context σ → Context σ} {Ready : Context σ → Prop}
    {findings : Node → List Diagnostic} {nodes : List Node}
    (hready : ∀ node ∈ nodes, ∀ cx, Ready cx → Ready (walk node cx))
    (hwalk : ∀ node ∈ nodes, ∀ cx, Ready cx →
      (walk node cx).reporter = cx.reporter.adding (findings node))
    {cx : Context σ} (hcx : Ready cx) :
    (walkAll walk nodes cx).reporter = cx.reporter.adding (nodes.flatMap findings) := by
  induction nodes generalizing cx with
  | nil => exact (Reporter.adding_nil _).symm
  | cons node rest ih =>
    rw [List.forall_mem_cons] at hready hwalk
    show (walkAll walk rest (walk node cx)).reporter = _
    rw [ih hready.2 hwalk.2 (hready.1 cx hcx), hwalk.1 cx hcx, Reporter.adding_adding,
      List.flatMap_cons]

end Walk

end SuiteLint
