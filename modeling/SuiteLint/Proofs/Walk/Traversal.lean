import SuiteLint.Proofs.Tree.Preorder
import SuiteLint.Proofs.Walk.Effect

/-!
# The order of a walk

`met` lists the nodes that a walk meets, whatever the visitor: those that are handed to `visit`, in
the order in which this happens, the ones that turn out to be too deep included.  The counter of a
context counts just these (`visit_visited`).

A plain visitor overrides no handler, and has only the choice whether to enter declarations with a
scope of their own.  Its walk meets the tree of named children in preorder, down to the depth limit
(`met_plain`), and its only faults are those of the nodes at the limit (`visit_plain_faults`).
`walk_plain` gives the whole account for a walk from the root.
-/

namespace SuiteLint.Walk

open SuiteLint.Tree (Node Site Uncut preorder)

variable {σ α : Type}

/-! ### The nodes that a walk meets -/

/-- **Nodes met by a plan**: `within` lists those of walking one node. -/
def Plan.met (walk : Node → Context σ → Context σ) (within : Node → Context σ → List Node) :
    Plan σ α → Context σ → List Node
  | done _, _ => []
  | fail _, _ => []
  | enter name next, cx =>
    let (scopes, token) := cx.scopes.enter name
    (next token).met walk within { cx with scopes := scopes }
  | leave token next, cx => next.met walk within { cx with scopes := cx.scopes.leave token }
  | restore depth next, cx => next.met walk within { cx with scopes := cx.scopes.restore depth }
  | isActive name next, cx => (next (cx.scopes.isActive name)).met walk within cx
  | scopeDepth next, cx => (next cx.scopes.depth).met walk within cx
  | faultCount next, cx => (next cx.faults.length).met walk within cx
  | report node message next, cx =>
    next.met walk within { cx with reporter := cx.reporter.reportMessage node message }
  | suggest text next, cx =>
    next.met walk within { cx with reporter := { cx.reporter with suggestion := some text } }
  | visit node next, cx => within node cx ++ next.met walk within (walk node cx)
  | inspect next, cx => (next cx.memory).met walk within cx
  | remember memory next, cx => next.met walk within { cx with memory := memory }

/-- **Nodes met by walking a node** with `room` levels left: the node itself, and those that its
handler has walked. -/
def met (v : Visitor σ) : (room : Nat) → Node → Context σ → List Node
  | 0, node, _ => [node]
  | room + 1, node, cx => node :: (v.handle node).met (visit v room) (met v room) cx.entered

/-- The nodes met by walking a node from a context, with the room that its depth leaves. -/
def walkMet (v : Visitor σ) (node : Node) (cx : Context σ) : List Node :=
  met v (maxDepth - cx.depth) node cx

/-- If walking a node counts the nodes that are met, so does running a plan. -/
theorem Plan.run_visited {walk : Node → Context σ → Context σ}
    {within : Node → Context σ → List Node}
    (hwalk : ∀ node cx, (walk node cx).visited = cx.visited + (within node cx).length)
    (p : Plan σ α) (cx : Context σ) :
    (p.run walk cx).2.visited = cx.visited + (p.met walk within cx).length := by
  induction p generalizing cx with
  | done | fail => rfl
  | enter name next ih | isActive name next ih => exact ih _ _
  | leave token next ih | restore target next ih | suggest text next ih => exact ih _
  | scopeDepth next ih | faultCount next ih | inspect next ih => exact ih _ _
  | report node message next ih => exact ih _
  | visit node next ih => rw [run, met, ih, hwalk, List.length_append, Nat.add_assoc]
  | remember memory next ih => exact ih _

/-- **The counter counts the nodes met**, for every visitor. -/
theorem visit_visited (v : Visitor σ) (room : Nat) (node : Node) (cx : Context σ) :
    (visit v room node cx).visited = cx.visited + (met v room node cx).length := by
  induction room generalizing node cx with
  | zero => rfl
  | succ room ih =>
    have hrun := Plan.run_visited ih (v.handle node) cx.entered
    have hentered : cx.entered.visited = cx.visited + 1 := rfl
    have hsettle : ∀ outcome, (cx.settle outcome).visited = outcome.2.visited := by
      rintro ⟨result, after⟩
      cases result <;> rfl
    rw [visit_succ, hsettle, hrun, hentered, met, List.length_cons]
    omega

theorem Plan.met_each_visit {walk : Node → Context σ → Context σ}
    {within : Node → Context σ → List Node} {nodesOf : Node → List Node}
    (hwithin : ∀ node cx, within node cx = nodesOf node) (nodes : List Node) (cx : Context σ) :
    (each (fun node => visit node (done ())) nodes).met walk within cx = nodes.flatMap nodesOf := by
  induction nodes generalizing cx with
  | nil => rfl
  | cons node rest ih =>
    show within node cx ++ (each (fun node => visit node (done ())) rest).met walk within
      (walk node cx) = _
    rw [ih, hwithin, List.flatMap_cons]

theorem walkAll_faults {walk : Node → Context σ → Context σ} {faultsOf : Node → List Fault}
    (hwalk : ∀ node cx, (walk node cx).faults = cx.faults ++ faultsOf node) (nodes : List Node)
    (cx : Context σ) : (walkAll walk nodes cx).faults = cx.faults ++ nodes.flatMap faultsOf := by
  induction nodes generalizing cx with
  | nil => exact (List.append_nil _).symm
  | cons node rest ih =>
    show (walkAll walk rest (walk node cx)).faults = _
    rw [ih, hwalk, List.append_assoc, List.flatMap_cons]

/-! ### Plain visitors -/

/-- **Plain visitor**: every handler is the default one. -/
def Visitor.plain (enters : Bool) : Visitor σ :=
  { entersScopes := enters }

/-- Whether a plain visitor stops at a node: at declarations with a scope of their own, unless it
enters them. -/
def shut (enters : Bool) (node : Node) : Bool :=
  !enters && node.kind.isScopeBoundary

/-- A plain visitor walks the children of a node, or stops there. -/
theorem plain_handle (enters : Bool) (node : Node) :
    (Visitor.plain enters : Visitor σ).handle node =
      Plan.each (fun child => .visit child (.done ()))
        (if shut enters node then [] else node.namedChildren) := by
  have hchildren : node.kind.isScopeBoundary = false → (Plan.visitChildren node : Plan σ Unit) =
      Plan.each (fun child => .visit child (.done ()))
        (if shut enters node then [] else node.namedChildren) := by
    intro hboundary
    unfold shut
    rw [hboundary, Bool.and_false]
    rfl
  have hscope : node.kind.isScopeBoundary = true → (scopePlan enters node : Plan σ Unit) =
      Plan.each (fun child => .visit child (.done ()))
        (if shut enters node then [] else node.namedChildren) := by
    intro hboundary
    unfold scopePlan shut
    rw [hboundary]
    cases enters <;> rfl
  -- the four kinds with handlers of their own, the three boundaries, and all others
  unfold Visitor.handle
  split <;> rename_i hkind
  iterate 4 exact hchildren (by rw [hkind]; rfl)
  iterate 3 exact hscope (by rw [hkind]; rfl)
  refine hchildren ?_
  unfold Tree.Kind.isScopeBoundary
  split <;> simp_all

/-- **What a plain visitor meets** with `room` levels left: the levels there are room for, and one
more. -/
theorem met_plain (enters : Bool) (room : Nat) (node : Node) (cx : Context σ) :
    met (.plain enters) room node cx =
      (preorder (shut enters) (room + 1) node).flatMap fun site => [site.node] := by
  induction room generalizing node cx with
  | zero =>
    rw [Tree.flatMap_preorder (shut enters) (fun _ node => [node])]
    simp [met, preorder]
  | succ room ih =>
    rw [Tree.flatMap_preorder (shut enters) (fun _ node => [node]), met, plain_handle,
      Plan.met_each_visit ih]
    rfl

/-- The fault of a node, if it is at the limit. -/
def limitFault (limit depth : Nat) (node : Node) : List Fault :=
  if depth = limit then [.tooDeep node.label node.start maxDepth] else []

theorem limitFault_succ (limit depth : Nat) (node : Node) :
    limitFault (limit + 1) (depth + 1) node = limitFault limit depth node := by
  unfold limitFault
  simp only [Nat.add_right_cancel_iff]

/-- **What a plain visitor notes** with `room` levels left: a fault for every node on the level
after. -/
theorem visit_plain_faults (enters : Bool) (room : Nat) (node : Node) (cx : Context σ) :
    (visit (.plain enters) room node cx).faults = cx.faults ++
      (preorder (shut enters) (room + 1) node).flatMap fun site =>
        limitFault room site.depth site.node := by
  induction room generalizing node cx with
  | zero =>
    rw [Tree.flatMap_preorder (shut enters) (limitFault 0)]
    simp [visit, Context.note, limitFault, preorder]
  | succ room ih =>
    -- the handler ends well, so the boundary adds no fault
    have hrun : (visit (.plain enters) (room + 1) node cx).faults
        = (walkAll (visit (.plain enters) room)
            (if shut enters node then [] else node.namedChildren) cx.entered).faults := by
      rw [visit_succ, plain_handle, Plan.run_each_visit]
      rfl
    rw [hrun, walkAll_faults ih, Tree.flatMap_preorder (shut enters) (limitFault (room + 1))]
    simp only [limitFault_succ]
    rfl

theorem flatMap_limitFault (limit : Nat) (sites : List Site) :
    sites.flatMap (fun site => limitFault limit site.depth site.node) =
      (sites.filter fun site => site.depth == limit).map fun site =>
        .tooDeep site.node.label site.node.start maxDepth := by
  unfold limitFault
  rw [Tree.flatMap_ite, List.map_eq_flatMap]
  rfl

/-! ### A walk from the root -/

/-- **Outline** of a tree: its sites at most 512 steps from the root, in preorder, without what is
below the nodes at which a plain visitor stops. -/
def outline (enters : Bool) (root : Node) : List Site :=
  preorder (shut enters) 513 root

/-- **A plain walk**.  From any context at depth zero it meets the nodes of the outline; it reports
their number, and the number of those 512 steps from the root, each of which has added a fault.  The
outline has exactly the sites that are at most 512 steps from the root and have no node above at
which the visitor stops, in strict lexicographic order of their addresses. -/
theorem walk_plain (enters : Bool) (root : Node) (cx : Context σ) (hdepth : cx.depth = 0) :
    walkMet (.plain enters) root cx = (outline enters root).map Site.node ∧
      (walk (.plain enters) root cx).1 =
        { visited := (outline enters root).length
          faults := ((outline enters root).filter fun site => site.depth == 512).length } ∧
      (walk (.plain enters) root cx).2.faults = cx.faults ++
        ((outline enters root).filter fun site => site.depth == 512).map (fun site =>
          .tooDeep site.node.label site.node.start 512) ∧
      (∀ site, site ∈ outline enters root ↔ root.at? site.address = some site.node ∧
        site.depth ≤ 512 ∧ Uncut (shut enters) root site.address) ∧
      (outline enters root).Pairwise fun a b => a.address < b.address := by
  have hroom : maxDepth - cx.depth = 512 := by
    rw [hdepth]
    rfl
  have hmet : walkMet (.plain enters) root cx = (outline enters root).map Site.node := by
    rw [walkMet, hroom, met_plain, ← List.map_eq_flatMap]
    rfl
  have hvisited : (walkNode (.plain enters) root cx).visited
      = cx.visited + (outline enters root).length := by
    rw [walkNode, visit_visited]
    exact congrArg (cx.visited + ·) ((congrArg List.length hmet).trans (List.length_map _))
  have hfaults : (walkNode (.plain enters) root cx).faults = cx.faults ++
      ((outline enters root).filter fun site => site.depth == 512).map fun site =>
        .tooDeep site.node.label site.node.start 512 := by
    rw [walkNode, hroom, visit_plain_faults, flatMap_limitFault]
    rfl
  refine ⟨hmet, ?_, hfaults, fun site => ?_, Tree.pairwise_preorder _ _ root⟩
  · show Summary.mk ((walkNode (.plain enters) root cx).visited - cx.visited)
      ((walkNode (.plain enters) root cx).faults.length - cx.faults.length) = _
    rw [hvisited, hfaults, List.length_append, List.length_map, Nat.add_sub_cancel_left,
      Nat.add_sub_cancel_left]
  · rw [outline, Tree.mem_preorder_iff, Nat.lt_succ_iff]

/-- A program with a comment, a function that makes a call, and a call of its own. -/
def commentedProgram : Node :=
  let call (start : Nat) : Node :=
    { label := "call_expression", start := start, stop := start + 3, named := true, field := none
      text := "f()", children := [] }
  { label := "program", start := 0, stop := 27, named := true, field := none
    text := "/* */function g()\x7bf()\x7d\nf();"
    children :=
      [{ label := "comment", start := 0, stop := 5, named := true, field := none
         text := "/* */", children := [] },
       { label := "function_declaration", start := 5, stop := 22, named := true, field := none
         text := "function g()\x7bf()\x7d", children := [call 18] },
       { label := "expression_statement", start := 23, stop := 27, named := true, field := none
         text := "f();", children := [call 23] }] }

/-- Two plain walks of the same program, both after other work in the same context: the comment is
never met, and the call in the function only if the visitor enters it. -/
theorem walk_plain_commentedProgram :
    let cx : Context Unit :=
      { reporter :=
          { file := { shown := ⟨"walk.ts"⟩, content := commentedProgram.text }, code := "TL999"
            rule := "script", severity := .warning }
        faults := [.malformed "program" 0 "not expected here"]
        visited := 7, memory := () }
    cx.depth = 0 ∧
      (walkMet (.plain false) commentedProgram cx).map (fun node => (node.label, node.start)) =
        [("program", 0), ("function_declaration", 5), ("expression_statement", 23),
          ("call_expression", 23)] ∧
      (walk (.plain false) commentedProgram cx).1 = { visited := 4, faults := 0 } ∧
      (walkMet (.plain true) commentedProgram cx).map (fun node => (node.label, node.start)) =
        [("program", 0), ("function_declaration", 5), ("call_expression", 18),
          ("expression_statement", 23), ("call_expression", 23)] ∧
      (walk (.plain true) commentedProgram cx).1 = { visited := 5, faults := 0 } := by
  intro cx
  obtain ⟨hmet, hsummary, -⟩ := walk_plain false commentedProgram cx rfl
  obtain ⟨hmet', hsummary', -⟩ := walk_plain true commentedProgram cx rfl
  rw [hmet, hsummary, hmet', hsummary']
  exact ⟨rfl, rfl, rfl, rfl, rfl⟩

end SuiteLint.Walk
