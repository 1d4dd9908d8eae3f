import Mathlib.Tactic.SplitIfs
import SuiteLint.Proofs.Walk.Scope
import SuiteLint.Walk.Visitor

/-!
# Walks are balanced

Whatever its handlers do, a walk leaves the scopes and the depth counter as it found them
(`walkNode_balanced`).  The handlers are arbitrary plans, with one restriction: a plan leaves scopes
only by tokens that it got itself (`Plan.OwnTokens`).  It may leave them in any order or forget to,
walk any nodes any number of times in between, and end in a fault.

The argument: such a plan never closes a scope that was open when it started, as its tokens all
stand for depths that are no smaller (`Plan.run_extends`).  So when `visit` restores the depth at
entry, exactly what the handler entered is closed (`visit_restores`).

`moments` lists the contexts that a walk goes through, in the order in which `Plan.run` makes them,
from the one it is given to the one it returns (`moments_ends`), and the depth counter is bounded in
all of them.  `walkNode_eq` is the recursive equation of the walk in terms of that counter.
-/

namespace SuiteLint.Walk

open SuiteLint.Tree (Node)

variable {σ α β : Type}

/-! ### Plans that leave by their own tokens -/

namespace Plan

/-- **Own tokens**: the plan leaves scopes only by tokens in `held` or those it gets when it enters
scopes, and does not restore a depth by number. -/
def OwnTokens : Plan σ α → (held : List ScopeToken) → Prop
  | done _, _ => True
  | fail _, _ => True
  | enter _ next, held => ∀ token, (next token).OwnTokens (token :: held)
  | leave token next, held => token ∈ held ∧ next.OwnTokens held
  | restore _ _, _ => False
  | isActive _ next, held => ∀ answer, (next answer).OwnTokens held
  | scopeDepth next, held => ∀ answer, (next answer).OwnTokens held
  | faultCount next, held => ∀ answer, (next answer).OwnTokens held
  | report _ _ next, held => next.OwnTokens held
  | suggest _ next, held => next.OwnTokens held
  | visit _ next, held => next.OwnTokens held
  | inspect next, held => ∀ memory, (next memory).OwnTokens held
  | remember _ next, held => next.OwnTokens held

theorem OwnTokens.mono {p : Plan σ α} {held held' : List ScopeToken} (hp : p.OwnTokens held)
    (h : held ⊆ held') : p.OwnTokens held' := by
  induction p generalizing held held' with
  | done | fail => trivial
  | enter name next ih => exact fun token => ih token (hp token) (List.cons_subset_cons token h)
  | leave token next ih => exact ⟨h hp.1, ih hp.2 h⟩
  | restore => exact hp
  | isActive name next ih => exact fun answer => ih answer (hp answer) h
  | scopeDepth next ih | faultCount next ih => exact fun answer => ih answer (hp answer) h
  | report node message next ih => exact ih hp h
  | suggest text next ih => exact ih hp h
  | visit node next ih => exact ih hp h
  | inspect next ih => exact fun memory => ih memory (hp memory) h
  | remember memory next ih => exact ih hp h

theorem OwnTokens.bind {p : Plan σ α} {f : α → Plan σ β} {held : List ScopeToken}
    (hp : p.OwnTokens held) (hf : ∀ a, (f a).OwnTokens held) : (p.bind f).OwnTokens held := by
  induction p generalizing held with
  | done a => exact hf a
  | fail => trivial
  | enter name next ih =>
    exact fun token => ih token (hp token) fun a => (hf a).mono (List.subset_cons_self token held)
  | leave token next ih => exact ⟨hp.1, ih hp.2 hf⟩
  | restore => exact hp
  | isActive name next ih => exact fun answer => ih answer (hp answer) hf
  | scopeDepth next ih | faultCount next ih => exact fun answer => ih answer (hp answer) hf
  | report node message next ih => exact ih hp hf
  | suggest text next ih => exact ih hp hf
  | visit node next ih => exact ih hp hf
  | inspect next ih => exact fun memory => ih memory (hp memory) hf
  | remember memory next ih => exact ih hp hf

theorem OwnTokens.each {f : α → Plan σ Unit} {as : List α} {held : List ScopeToken}
    (h : ∀ a ∈ as, (f a).OwnTokens held) : (each f as).OwnTokens held := by
  induction as with
  | nil => trivial
  | cons a rest ih =>
    exact (h a List.mem_cons_self).bind fun _ =>
      ih fun b hb => h b (List.mem_cons_of_mem a hb)

theorem ownTokens_visitChildren (node : Node) (held : List ScopeToken) :
    (visitChildren node : Plan σ Unit).OwnTokens held :=
  .each fun _ _ => trivial

theorem ownTokens_ofExcept (result : Except Fault α) (held : List ScopeToken) :
    (ofExcept result : Plan σ α).OwnTokens held := by
  cases result <;> trivial

end Plan

theorem ownTokens_scopePlan (enters : Bool) (node : Node) (held : List ScopeToken) :
    (scopePlan enters node : Plan σ Unit).OwnTokens held := by
  unfold scopePlan
  cases enters
  · trivial
  · exact Plan.ownTokens_visitChildren node held

/-- A visitor whose handlers leave scopes only by tokens that the same handler call got. -/
def Visitor.OwnTokens (v : Visitor σ) : Prop :=
  ∀ node, (v.handle node).OwnTokens []

/-- What holds of the plans of each handler holds of the plan for every node. -/
theorem Visitor.forall_handle {v : Visitor σ} (P : Plan σ Unit → Prop)
    (hprogram : ∀ node, P (v.onProgram node)) (hcall : ∀ node, P (v.onCall node))
    (hnew : ∀ node, P (v.onNew node)) (hdeclarator : ∀ node, P (v.onDeclarator node))
    (hfunction : ∀ node, P (v.onFunction node)) (hclass : ∀ node, P (v.onClass node))
    (hother : ∀ node, P (v.onOther node)) (node : Node) : P (v.handle node) := by
  unfold Visitor.handle
  split
  · exact hprogram node
  · exact hcall node
  · exact hnew node
  · exact hdeclarator node
  · exact hfunction node
  · exact hclass node
  · exact hclass node
  · exact hother node

/-- A visitor has the property if each of its handlers has. -/
theorem Visitor.ownTokens_of_handlers {v : Visitor σ}
    (hprogram : ∀ node, (v.onProgram node).OwnTokens [])
    (hcall : ∀ node, (v.onCall node).OwnTokens [])
    (hnew : ∀ node, (v.onNew node).OwnTokens [])
    (hdeclarator : ∀ node, (v.onDeclarator node).OwnTokens [])
    (hfunction : ∀ node, (v.onFunction node).OwnTokens [])
    (hclass : ∀ node, (v.onClass node).OwnTokens [])
    (hother : ∀ node, (v.onOther node).OwnTokens []) : v.OwnTokens :=
  forall_handle (fun p => p.OwnTokens []) hprogram hcall hnew hdeclarator hfunction hclass hother

/-! ### What a run leaves alone -/

/-- **Restored context**: the scopes agree with those before, and the depth counter is equal. -/
structure Restored (before after : Context σ) : Prop where
  /-- The scopes agree. -/
  scopes : after.scopes.Agrees before.scopes
  /-- The depth counters are equal. -/
  depth : after.depth = before.depth

/-- Running a plan does not change the depth counter, if walking a node does not. -/
theorem Plan.run_depth {walk : Node → Context σ → Context σ}
    (hwalk : ∀ node cx, (walk node cx).depth = cx.depth) (p : Plan σ α) (cx : Context σ) :
    (p.run walk cx).2.depth = cx.depth := by
  induction p generalizing cx with
  | done | fail => rfl
  | enter name next ih => exact ih _ _
  | leave token next ih => exact ih _
  | restore target next ih => exact ih _
  | isActive name next ih => exact ih _ _
  | scopeDepth next ih | faultCount next ih => exact ih _ _
  | report node message next ih => exact ih _
  | suggest text next ih => exact ih _
  | visit node next ih => exact (ih _).trans (hwalk node cx)
  | inspect next ih => exact ih _ _
  | remember memory next ih => exact ih _

/-- **A plan never reaches below its start**: if walking a node puts the scopes back, the plan holds
tokens for depths not below `base`, and the scopes extend `base`, then they still do when the plan
has run. -/
theorem Plan.run_extends {walk : Node → Context σ → Context σ}
    (hwalk : ∀ node cx, (walk node cx).scopes.Agrees cx.scopes) {base : ScopeTracker}
    {p : Plan σ α} {held : List ScopeToken} (hp : p.OwnTokens held)
    (hheld : ∀ token ∈ held, base.depth ≤ token.depth) {cx : Context σ}
    (hcx : base.Extends cx.scopes) : base.Extends (p.run walk cx).2.scopes := by
  induction p generalizing held cx with
  | done | fail => exact hcx
  | enter name next ih =>
    -- the new token stands for the depth at this point, which is not below the base
    refine ih _ (hp _) (fun token htoken => ?_) (hcx.enter name)
    rcases List.mem_cons.mp htoken with rfl | htoken
    · exact hcx.depth_le
    · exact hheld token htoken
  | leave token next ih => exact ih hp.2 hheld (hcx.restore (hheld token hp.1))
  | restore => exact hp.elim
  | isActive name next ih => exact ih _ (hp _) hheld hcx
  | scopeDepth next ih | faultCount next ih => exact ih _ (hp _) hheld hcx
  | report node message next ih => exact ih hp hheld hcx
  | suggest text next ih => exact ih hp hheld hcx
  | visit node next ih => exact ih hp hheld (hcx.of_agrees (hwalk node cx))
  | inspect next ih => exact ih _ (hp _) hheld hcx
  | remember memory next ih => exact ih hp hheld hcx

/-! ### What a walk leaves alone -/

/-- The context in which a handler starts. -/
def Context.entered (cx : Context σ) : Context σ :=
  { cx with visited := cx.visited + 1, depth := cx.depth + 1 }

/-- **The boundary around a node**: what is left of a handler's run once its fault is noted and its
scopes are closed. -/
def Context.settle (cx : Context σ) (outcome : Except Fault Unit × Context σ) : Context σ :=
  let left := { outcome.2 with depth := outcome.2.depth - 1 }
  let noted := match outcome.1 with
    | .ok _ => left
    | .error fault => left.note fault
  { noted with scopes := noted.scopes.restore cx.scopes.depth }

theorem visit_succ (v : Visitor σ) (room : Nat) (node : Node) (cx : Context σ) :
    visit v (room + 1) node cx = cx.settle ((v.handle node).run (visit v room) cx.entered) :=
  rfl

theorem Context.settle_scopes (cx : Context σ) (outcome : Except Fault Unit × Context σ) :
    (cx.settle outcome).scopes = outcome.2.scopes.restore cx.scopes.depth := by
  obtain ⟨result, after⟩ := outcome
  cases result <;> rfl

theorem Context.settle_depth (cx : Context σ) (outcome : Except Fault Unit × Context σ) :
    (cx.settle outcome).depth = outcome.2.depth - 1 := by
  obtain ⟨result, after⟩ := outcome
  cases result <;> rfl

/-- Walking a node puts the depth counter back, whatever the handlers do. -/
theorem visit_depth (v : Visitor σ) (room : Nat) (node : Node) (cx : Context σ) :
    (visit v room node cx).depth = cx.depth := by
  induction room generalizing node cx with
  | zero => rfl
  | succ room ih =>
    rw [visit_succ, Context.settle_depth, Plan.run_depth ih]
    rfl

/-- **Walking a node restores the context**. -/
theorem visit_restores {v : Visitor σ} (hv : v.OwnTokens) (room : Nat) (node : Node)
    (cx : Context σ) : Restored cx (visit v room node cx) := by
  refine ⟨?_, visit_depth v room node cx⟩
  induction room generalizing node cx with
  | zero => exact .refl cx.scopes
  | succ room ih =>
    rw [visit_succ, Context.settle_scopes]
    -- a handler starts without tokens, on top of the scopes at entry
    have hrun : cx.scopes.Extends
        ((v.handle node).run (visit v room) cx.entered).2.scopes :=
      Plan.run_extends ih (hv node) (by simp) (.refl cx.scopes)
    exact hrun.restore_base

/-! ### The walk by its depth counter -/

/-- Two ways of walking nodes that agree at the depth of the context give the same run. -/
theorem Plan.run_congr {walk walk' : Node → Context σ → Context σ}
    (hdepth : ∀ node cx, (walk node cx).depth = cx.depth) (p : Plan σ α) (cx : Context σ)
    (h : ∀ node cx', cx'.depth = cx.depth → walk node cx' = walk' node cx') :
    p.run walk cx = p.run walk' cx := by
  induction p generalizing cx with
  | done | fail => rfl
  | enter name next ih => exact ih _ _ h
  | leave token next ih => exact ih _ h
  | restore target next ih => exact ih _ h
  | isActive name next ih => exact ih _ _ h
  | scopeDepth next ih | faultCount next ih => exact ih _ _ h
  | report node message next ih => exact ih _ h
  | suggest text next ih => exact ih _ h
  | visit node next ih =>
    rw [run, run, ← h node cx rfl]
    -- the node is walked back to the same depth, where both ways still agree
    refine ih _ fun node' cx' hcx' => h node' cx' ?_
    rw [hcx', hdepth]
  | inspect next ih => exact ih _ _ h
  | remember memory next ih => exact ih _ h

/-- **The equation of the walk**: a node is entered unless the depth counter has reached the limit,
and its handler walks other nodes in the same way. -/
theorem walkNode_eq (v : Visitor σ) (node : Node) (cx : Context σ) :
    walkNode v node cx =
      if maxDepth ≤ cx.depth then
        { cx with visited := cx.visited + 1 }.note (.tooDeep node.label node.start maxDepth)
      else cx.settle ((v.handle node).run (walkNode v) cx.entered) := by
  unfold walkNode
  split_ifs with hdeep
  · rw [Nat.sub_eq_zero_of_le hdeep]
    rfl
  · obtain ⟨room, hroom⟩ : ∃ room, maxDepth - cx.depth = room + 1 :=
      ⟨maxDepth - cx.depth - 1, by omega⟩
    rw [hroom, visit_succ]
    congr 1
    -- inside the handler the counter is one higher and the room one smaller
    refine Plan.run_congr (visit_depth v room) _ _ fun node' cx' hcx' => ?_
    have hdepth : cx'.depth = cx.depth + 1 := hcx'
    rw [show room = maxDepth - cx'.depth by omega]

/-! ### The moments of a walk -/

/-- **Moments of a plan**: the contexts that running it goes through, the first and the last one
included; `within` lists those of walking a node. -/
def Plan.moments (walk : Node → Context σ → Context σ)
    (within : Node → Context σ → List (Context σ)) : Plan σ α → Context σ → List (Context σ)
  | done _, cx => [cx]
  | fail _, cx => [cx]
  | enter name next, cx =>
    let (scopes, token) := cx.scopes.enter name
    cx :: (next token).moments walk within { cx with scopes := scopes }
  | leave token next, cx =>
    cx :: next.moments walk within { cx with scopes := cx.scopes.leave token }
  | restore depth next, cx =>
    cx :: next.moments walk within { cx with scopes := cx.scopes.restore depth }
  | isActive name next, cx => cx :: (next (cx.scopes.isActive name)).moments walk within cx
  | scopeDepth next, cx => cx :: (next cx.scopes.depth).moments walk within cx
  | faultCount next, cx => cx :: (next cx.faults.length).moments walk within cx
  | report node message next, cx =>
    cx :: next.moments walk within { cx with reporter := cx.reporter.reportMessage node message }
  | suggest text next, cx =>
    cx :: next.moments walk within
      { cx with reporter := { cx.reporter with suggestion := some text } }
  | visit node next, cx => cx :: (within node cx ++ next.moments walk within (walk node cx))
  | inspect next, cx => cx :: (next cx.memory).moments walk within cx
  | remember memory next, cx => cx :: next.moments walk within { cx with memory := memory }

/-- **Moments of walking a node** with `room` levels left. -/
def moments (v : Visitor σ) : (room : Nat) → Node → Context σ → List (Context σ)
  | 0, node, cx => [cx, visit v 0 node cx]
  | room + 1, node, cx =>
    cx :: ((v.handle node).moments (visit v room) (moments v room) cx.entered ++
      [visit v (room + 1) node cx])

/-- The moments of walking a node from a context, with the room that its depth leaves. -/
def walkMoments (v : Visitor σ) (node : Node) (cx : Context σ) : List (Context σ) :=
  moments v (maxDepth - cx.depth) node cx

/-- A walk goes from the context it is given to the context it returns. -/
theorem moments_ends (v : Visitor σ) (room : Nat) (node : Node) (cx : Context σ) :
    (moments v room node cx).head? = some cx ∧
      (moments v room node cx).getLast? = some (visit v room node cx) := by
  cases room with
  | zero => exact ⟨rfl, rfl⟩
  | succ room =>
    refine ⟨rfl, ?_⟩
    rw [moments, List.getLast?_cons, List.getLast?_concat]
    rfl

/-- Between its first and its last context a plan keeps the depth counter; if walking a node from
that depth stays within a bound, so does the plan. -/
theorem Plan.depth_le_of_mem_moments {walk : Node → Context σ → Context σ}
    {within : Node → Context σ → List (Context σ)} {depth bound : Nat}
    (hwalk : ∀ node cx, (walk node cx).depth = cx.depth)
    (hwithin : ∀ node cx, cx.depth = depth → ∀ moment ∈ within node cx, moment.depth ≤ bound)
    (hbound : depth ≤ bound) (p : Plan σ α) {cx : Context σ} (hcx : cx.depth = depth) :
    ∀ moment ∈ p.moments walk within cx, moment.depth ≤ bound := by
  have hfirst : cx.depth ≤ bound := hcx ▸ hbound
  induction p generalizing cx with
  | done | fail =>
    intro moment hmem
    exact List.mem_singleton.mp hmem ▸ hfirst
  | visit node next ih =>
    rw [moments, List.forall_mem_cons, List.forall_mem_append]
    have hnext : (walk node cx).depth = depth := (hwalk node cx).trans hcx
    exact ⟨hfirst, hwithin node cx hcx, ih hnext (hnext ▸ hbound)⟩
  | enter name next ih | isActive name next ih =>
    exact List.forall_mem_cons.mpr ⟨hfirst, ih _ hcx hfirst⟩
  | leave token next ih | restore target next ih | suggest text next ih =>
    exact List.forall_mem_cons.mpr ⟨hfirst, ih hcx hfirst⟩
  | scopeDepth next ih | faultCount next ih | inspect next ih =>
    exact List.forall_mem_cons.mpr ⟨hfirst, ih _ hcx hfirst⟩
  | report node message next ih => exact List.forall_mem_cons.mpr ⟨hfirst, ih hcx hfirst⟩
  | remember memory next ih => exact List.forall_mem_cons.mpr ⟨hfirst, ih hcx hfirst⟩

/-- The depth counter never rises by more than the room there is. -/
theorem depth_le_of_mem_moments (v : Visitor σ) {room bound : Nat} (node : Node) {cx : Context σ}
    (h : cx.depth + room ≤ bound) : ∀ moment ∈ moments v room node cx, moment.depth ≤ bound := by
  induction room generalizing node cx with
  | zero =>
    intro moment hmem
    rcases List.mem_cons.mp hmem with rfl | hmem
    · exact h
    · rw [List.mem_singleton.mp hmem, visit_depth]
      exact h
  | succ room ih =>
    rw [moments, List.forall_mem_cons, List.forall_mem_append, List.forall_mem_singleton,
      visit_depth]
    refine ⟨by omega, ?_, by omega⟩
    have hentered : cx.entered.depth = cx.depth + 1 := rfl
    exact Plan.depth_le_of_mem_moments (visit_depth v room)
      (fun node' cx' hcx' => ih node' (by omega)) (by omega) _ hentered

/-! ### Balance -/

/-- **Walks are balanced**: for handlers that leave scopes only by tokens of their own, walking a
node from any context within the depth limit brings back the stack of scopes, hence every answer
about open scopes, and the depth counter; and on the way from the context it is given to the one it
returns the counter never exceeds the limit. -/
theorem walkNode_balanced (v : Visitor σ) (hv : v.OwnTokens) (node : Node) (cx : Context σ)
    (hdepth : cx.depth ≤ maxDepth) :
    (walkNode v node cx).scopes.stack = cx.scopes.stack ∧
      (∀ name, (walkNode v node cx).scopes.isActive name = cx.scopes.isActive name) ∧
      (walkNode v node cx).depth = cx.depth ∧
      (walkMoments v node cx).head? = some cx ∧
      (walkMoments v node cx).getLast? = some (walkNode v node cx) ∧
      ∀ moment ∈ walkMoments v node cx, moment.depth ≤ maxDepth := by
  have hrestored : Restored cx (walkNode v node cx) := visit_restores hv _ node cx
  obtain ⟨hhead, hlast⟩ := moments_ends v (maxDepth - cx.depth) node cx
  refine ⟨hrestored.scopes.stack, hrestored.scopes.isActive, hrestored.depth, hhead, hlast, ?_⟩
  exact depth_le_of_mem_moments v node (by omega)

/-- A visitor that opens a scope at every call, walks on, forgets to close the scope and ends in a
fault. -/
def forgetful : Visitor Unit :=
  { onCall := fun node => .enter "group" fun _ =>
      (Plan.visitChildren node).bind fun _ =>
        .fail (.malformed node.label node.start "group always fails after walking") }

theorem forgetful_ownTokens : forgetful.OwnTokens :=
  Visitor.ownTokens_of_handlers (fun node => Plan.ownTokens_visitChildren node [])
    (fun node token => (Plan.ownTokens_visitChildren node [token]).bind fun _ => trivial)
    (fun node => Plan.ownTokens_visitChildren node [])
    (fun node => Plan.ownTokens_visitChildren node [])
    (fun node => ownTokens_scopePlan false node []) (fun node => ownTokens_scopePlan false node [])
    (fun node => Plan.ownTokens_visitChildren node [])

/-- One level above the limit, inside a scope of the same name, the forgetful visitor meets a call
and leaves nothing behind. -/
theorem walkNode_balanced_forgetful :
    let call : Node :=
      { label := "call_expression", start := 0, stop := 3, named := true, field := none
        text := "f()", children := [] }
    let cx : Context Unit :=
      { scopes := { stack := ["group"], tally := [("group", 1)] }
        reporter :=
          { file := { shown := ⟨"walk.ts"⟩, content := "f()" }, code := "TL999", rule := "script"
            severity := .warning }
        depth := 511, memory := () }
    forgetful.OwnTokens ∧ cx.depth ≤ maxDepth ∧
      (walkNode forgetful call cx).scopes.stack = ["group"] ∧
      (walkNode forgetful call cx).depth = 511 ∧
      ∀ moment ∈ walkMoments forgetful call cx, moment.depth ≤ maxDepth := by
  intro call cx
  have hdepth : cx.depth ≤ maxDepth := by decide
  obtain ⟨hstack, _, hcounter, _, _, hmoments⟩ :=
    walkNode_balanced forgetful forgetful_ownTokens call cx hdepth
  exact ⟨forgetful_ownTokens, hdepth, hstack, hcounter, hmoments⟩

end SuiteLint.Walk
