import SuiteLint.Proofs.Walk.Contribution

/-!
# Siblings are isolated

What walking a node contributes depends on the node, the open scopes and the depth, and on nothing
that was reported or went wrong before.  This holds for visitors that are *insular*
(`Visitor.Insular`): their handlers leave scopes only by their own tokens, keep no state, do not ask
for the faults so far and do not change the help for later reports.

The argument runs two walks in lockstep.  From contexts that are alike (`Alike`), a plan gives the
same result and makes the same contribution (`Plan.run_alike`), hence so does a node
(`visit_uniform`).  As every node is left with the scopes it was entered with, the next sibling
starts from a context that is alike again, and the children of a node contribute what each would
contribute alone (`run_visitChildren_gains`).

Nor does it matter what handlers do elsewhere: two visitors that do the same in a territory, and do
not leave it, walk it in the same way (`visit_eq_of_sameOn`).
-/

namespace SuiteLint

open SuiteLint.Tree (Node)

/-- A reporter as it was before any report. -/
def Reporter.fresh (r : Reporter) : Reporter :=
  { r with diagnostics := [] }

theorem Reporter.outcome_fresh (r : Reporter) (node : Node) (message : String) :
    r.fresh.outcome node message = r.outcome node message :=
  rfl

namespace Walk

variable {σ α β : Type}

/-! ### The steps that a plan may take -/

/-- **Step** of a plan, without what follows. -/
inductive Step (σ : Type) where
  | enter (name : String)
  | leave (token : ScopeToken)
  | restore (depth : Nat)
  | isActive (name : String)
  | scopeDepth
  | faultCount
  | report (node : Node) (message : String)
  | suggest (text : String)
  | visit (node : Node)
  | inspect
  | remember (memory : σ)

namespace Plan

/-- `p.Only allowed`: whatever the answers it gets, the plan takes only steps that are allowed. -/
def Only (allowed : Step σ → Prop) : Plan σ α → Prop
  | done _ => True
  | fail _ => True
  | enter name next => allowed (.enter name) ∧ ∀ token, (next token).Only allowed
  | leave token next => allowed (.leave token) ∧ next.Only allowed
  | restore depth next => allowed (.restore depth) ∧ next.Only allowed
  | isActive name next => allowed (.isActive name) ∧ ∀ answer, (next answer).Only allowed
  | scopeDepth next => allowed .scopeDepth ∧ ∀ answer, (next answer).Only allowed
  | faultCount next => allowed .faultCount ∧ ∀ answer, (next answer).Only allowed
  | report node message next => allowed (.report node message) ∧ next.Only allowed
  | suggest text next => allowed (.suggest text) ∧ next.Only allowed
  | visit node next => allowed (.visit node) ∧ next.Only allowed
  | inspect next => allowed .inspect ∧ ∀ memory, (next memory).Only allowed
  | remember memory next => allowed (.remember memory) ∧ next.Only allowed

theorem Only.bind {allowed : Step σ → Prop} {p : Plan σ α} {f : α → Plan σ β}
    (hp : p.Only allowed) (hf : ∀ a, (f a).Only allowed) : (p.bind f).Only allowed := by
  induction p with
  | done a => exact hf a
  | fail => trivial
  | enter name next ih | isActive name next ih =>
    exact ⟨hp.1, fun answer => ih answer (hp.2 answer)⟩
  | scopeDepth next ih | faultCount next ih | inspect next ih =>
    exact ⟨hp.1, fun answer => ih answer (hp.2 answer)⟩
  | leave token next ih | restore target next ih | suggest text next ih => exact ⟨hp.1, ih hp.2⟩
  | report node message next ih => exact ⟨hp.1, ih hp.2⟩
  | visit node next ih => exact ⟨hp.1, ih hp.2⟩
  | remember memory next ih => exact ⟨hp.1, ih hp.2⟩

theorem Only.each {allowed : Step σ → Prop} {f : α → Plan σ Unit} {as : List α}
    (h : ∀ a ∈ as, (f a).Only allowed) : (each f as).Only allowed := by
  induction as with
  | nil => trivial
  | cons a rest ih =>
    rw [List.forall_mem_cons] at h
    exact h.1.bind fun _ => ih h.2

theorem only_visitChildren {allowed : Step σ → Prop} (hvisit : ∀ node, allowed (.visit node))
    (node : Node) : (visitChildren node : Plan σ Unit).Only allowed :=
  .each fun child _ => ⟨hvisit child, trivial⟩

theorem only_ofExcept (allowed : Step σ → Prop) (result : Except Fault α) :
    (ofExcept result : Plan σ α).Only allowed := by
  cases result <;> trivial

end Plan

theorem only_scopePlan {allowed : Step σ → Prop} (hvisit : ∀ node, allowed (.visit node))
    (enters : Bool) (node : Node) : (scopePlan enters node : Plan σ Unit).Only allowed := by
  unfold scopePlan
  cases enters
  · trivial
  · exact Plan.only_visitChildren hvisit node

/-! ### Insular visitors -/

/-- **Insular steps**: all but those by which one node could learn of another, or keep something for
it. -/
def Step.Insular : Step σ → Prop
  | .faultCount => False
  | .suggest _ => False
  | .remember _ => False
  | _ => True

/-- **Insular visitor**: its handlers leave scopes only by their own tokens and take only insular
steps. -/
structure Visitor.Insular (v : Visitor σ) : Prop where
  /-- Scopes are left by tokens of the same handler call. -/
  tokens : v.OwnTokens
  /-- The steps are insular. -/
  steps : ∀ node, (v.handle node).Only Step.Insular

/-! ### Contexts that are alike -/

/-- **Alike**: contexts that differ at most in what was gathered. -/
structure Alike (a b : Context σ) : Prop where
  /-- The scopes agree. -/
  scopes : a.scopes.Agrees b.scopes
  /-- The depth counters are equal. -/
  depth : a.depth = b.depth
  /-- The reporters are equal but for the reports. -/
  reporter : a.reporter.fresh = b.reporter.fresh
  /-- The memory is equal. -/
  memory : a.memory = b.memory

/-- A context with nothing gathered. -/
def Context.fresh (cx : Context σ) : Context σ :=
  { cx with reporter := cx.reporter.fresh, faults := [], visited := 0 }

section

variable {a b a' b' : Context σ} {c : Contribution}

theorem alike_fresh (cx : Context σ) : Alike cx cx.fresh :=
  ⟨.refl cx.scopes, rfl, rfl, rfl⟩

theorem Alike.withScopes {scopes scopes' : ScopeTracker} (h : Alike a b)
    (hscopes : scopes.Agrees scopes') :
    Alike { a with scopes := scopes } { b with scopes := scopes' } :=
  ⟨hscopes, h.depth, h.reporter, h.memory⟩

/-- A report has the same outcome in contexts that are alike. -/
theorem Alike.outcome (h : Alike a b) (node : Node) (message : String) :
    a.reporter.outcome node message = b.reporter.outcome node message := by
  rw [← Reporter.outcome_fresh, h.reporter, Reporter.outcome_fresh]

/-- Scopes play no part in gains. -/
theorem Context.Gains.of_scopes {scopes : ScopeTracker}
    (h : { a with scopes := scopes }.Gains c a') : a.Gains c a' :=
  ⟨h.reporter, h.faults, h.visited, h.memory⟩

theorem Context.Gains.reporter_fresh (h : a.Gains c a') :
    a'.reporter.fresh = a.reporter.fresh := by
  rw [h.reporter]
  rfl

/-- Contexts that are alike stay so when they gain something and their scopes and depths are put
back. -/
theorem Alike.of_gains {c' : Contribution} (h : Alike a b) (ha : a.Gains c a') (hb : b.Gains c' b')
    (hra : Restored a a') (hrb : Restored b b') : Alike a' b' where
  scopes := (hra.scopes.trans h.scopes).trans hrb.scopes.symm
  depth := by rw [hra.depth, hrb.depth, h.depth]
  reporter := by rw [ha.reporter_fresh, hb.reporter_fresh, h.reporter]
  memory := by rw [ha.memory, hb.memory, h.memory]

/-- A context that gained something from nothing has gathered just that. -/
theorem Context.Gains.eq_gathered {cx after : Context σ} (h : cx.fresh.Gains c after) :
    c = Contribution.gathered after := by
  have hdiagnostics : after.reporter.diagnostics = c.diagnostics := by
    rw [h.reporter]
    exact List.nil_append _
  have hfaults : after.faults = c.faults := by
    rw [h.faults]
    exact List.nil_append _
  have hvisited : after.visited = c.visited := by
    rw [h.visited]
    exact Nat.zero_add _
  unfold Contribution.gathered
  rw [hdiagnostics, hfaults, hvisited]

end

/-! ### Two walks in lockstep -/

/-- `Uniform walk`: walking a node puts scopes and depth back, and from contexts that are alike it
contributes the same. -/
structure Uniform (walk : Node → Context σ → Context σ) : Prop where
  /-- Scopes and depth are put back. -/
  restores : ∀ node cx, Restored cx (walk node cx)
  /-- The contributions are the same. -/
  alike : ∀ node a b, Alike a b → ∃ c, a.Gains c (walk node a) ∧ b.Gains c (walk node b)

theorem Plan.run_enter (walk : Node → Context σ → Context σ) (name : String)
    (next : ScopeToken → Plan σ α) (cx : Context σ) :
    (enter name next).run walk cx = (next (cx.scopes.enter name).2).run walk
      { cx with scopes := (cx.scopes.enter name).1 } :=
  rfl

/-- **A plan in lockstep**: from contexts that are alike an insular plan gives the same result,
leaves scopes that agree, and makes the same contribution. -/
theorem Plan.run_alike {walk : Node → Context σ → Context σ} (hwalk : Uniform walk) {p : Plan σ α}
    (hp : p.Only Step.Insular) {a b : Context σ} (h : Alike a b) :
    (p.run walk a).1 = (p.run walk b).1 ∧
      (p.run walk a).2.scopes.Agrees (p.run walk b).2.scopes ∧
      ∃ c, a.Gains c (p.run walk a).2 ∧ b.Gains c (p.run walk b).2 := by
  induction p generalizing a b with
  | done | fail => exact ⟨rfl, h.scopes, {}, .refl a, .refl b⟩
  | enter name next ih =>
    -- both get the same token, as it stands for the depth
    have htoken : (a.scopes.enter name).2 = (b.scopes.enter name).2 :=
      congrArg ScopeToken.mk h.scopes.depth
    rw [run_enter, run_enter, htoken]
    obtain ⟨hresult, hscopes, c, hca, hcb⟩ := ih _ (hp.2 _) (h.withScopes (h.scopes.enter name))
    exact ⟨hresult, hscopes, c, hca.of_scopes, hcb.of_scopes⟩
  | leave token next ih =>
    obtain ⟨hresult, hscopes, c, hca, hcb⟩ :=
      ih hp.2 (h.withScopes (h.scopes.restore token.depth))
    exact ⟨hresult, hscopes, c, hca.of_scopes, hcb.of_scopes⟩
  | restore target next ih =>
    obtain ⟨hresult, hscopes, c, hca, hcb⟩ := ih hp.2 (h.withScopes (h.scopes.restore target))
    exact ⟨hresult, hscopes, c, hca.of_scopes, hcb.of_scopes⟩
  | isActive name next ih =>
    rw [run, run, h.scopes.isActive name]
    exact ih _ (hp.2 _) h
  | scopeDepth next ih =>
    rw [run, run, h.scopes.depth]
    exact ih _ (hp.2 _) h
  | faultCount | suggest | remember => exact hp.1.elim
  | report node message next ih =>
    have hreported : Alike { a with reporter := a.reporter.reportMessage node message }
        { b with reporter := b.reporter.reportMessage node message } :=
      ⟨h.scopes, h.depth, h.reporter, h.memory⟩
    obtain ⟨hresult, hscopes, c, hca, hcb⟩ := ih hp.2 hreported
    let reported : Contribution := { diagnostics := a.reporter.outcome node message }
    have ha : a.Gains reported { a with reporter := a.reporter.reportMessage node message } :=
      ⟨rfl, (List.append_nil _).symm, rfl, rfl⟩
    have hb : b.Gains reported { b with reporter := b.reporter.reportMessage node message } :=
      ⟨congrArg b.reporter.adding (h.outcome node message).symm, (List.append_nil _).symm, rfl, rfl⟩
    exact ⟨hresult, hscopes, reported ++ c, ha.trans hca, hb.trans hcb⟩
  | visit node next ih =>
    obtain ⟨c, hca, hcb⟩ := hwalk.alike node a b h
    have hwalked : Alike (walk node a) (walk node b) :=
      h.of_gains hca hcb (hwalk.restores node a) (hwalk.restores node b)
    obtain ⟨hresult, hscopes, c', hca', hcb'⟩ := ih hp.2 hwalked
    exact ⟨hresult, hscopes, c ++ c', hca.trans hca', hcb.trans hcb'⟩
  | inspect next ih =>
    rw [run, run, h.memory]
    exact ih _ (hp.2 _) h

/-- **A node in lockstep**: an insular visitor walks nodes uniformly. -/
theorem visit_uniform {v : Visitor σ} (hv : v.Insular) (room : Nat) : Uniform (visit v room) := by
  refine ⟨visit_restores hv.tokens room, ?_⟩
  induction room with
  | zero => exact fun node a b _ => ⟨_, visit_zero_gains v node a, visit_zero_gains v node b⟩
  | succ room ih =>
    intro node a b h
    have hentered : Alike a.entered b.entered :=
      ⟨h.scopes, congrArg (· + 1) h.depth, h.reporter, h.memory⟩
    obtain ⟨hresult, _, c, hca, hcb⟩ :=
      Plan.run_alike ⟨visit_restores hv.tokens room, ih⟩ (hv.steps node) hentered
    -- the boundary adds the fault of the handler, which is the same on both sides
    have ha : a.Gains _ (visit v (room + 1) node a) := (a.gains_entered.trans hca).settle
    have hb : b.Gains _ (visit v (room + 1) node b) := (b.gains_entered.trans hcb).settle
    rw [← hresult] at hb
    exact ⟨_, ha, hb⟩

theorem walkNode_alike {v : Visitor σ} (hv : v.Insular) (node : Node) {a b : Context σ}
    (h : Alike a b) : ∃ c, a.Gains c (walkNode v node a) ∧ b.Gains c (walkNode v node b) := by
  unfold walkNode
  rw [← h.depth]
  exact (visit_uniform hv _).alike node a b h

/-! ### Walking the children -/

/-- **What a node contributes alone**, walked from a context with the same scopes and depth in which
nothing was gathered. -/
def contribution (v : Visitor σ) (cx : Context σ) (node : Node) : Contribution :=
  .gathered (walkNode v node cx.fresh)

/-- From any context that is alike, a node contributes what it does alone. -/
theorem walkNode_gains {v : Visitor σ} (hv : v.Insular) (node : Node) {cx now : Context σ}
    (h : Alike now cx.fresh) : now.Gains (contribution v cx node) (walkNode v node now) := by
  obtain ⟨c, hnow, hfresh⟩ := walkNode_alike hv node h
  have hc : c = contribution v cx node := hfresh.eq_gathered
  exact hc ▸ hnow

/-- **The children of a node** are walked to the end, and contribute what each contributes alone. -/
theorem run_visitChildren_gains {v : Visitor σ} (hv : v.Insular) (node : Node) (cx : Context σ) :
    ∃ after, (Plan.visitChildren node).run (walkNode v) cx = (.ok (), after) ∧
      cx.Gains (.total (node.namedChildren.map (contribution v cx))) after := by
  refine ⟨_, Plan.run_visitChildren (walkNode v) node cx, ?_⟩
  have hgains : ∀ child now, Alike now cx.fresh →
      now.Gains (contribution v cx child) (walkNode v child now) :=
    fun child now hnow => walkNode_gains hv child hnow
  refine walkAll_gains (fun child _ now hnow => ?_) (fun child _ => hgains child) (alike_fresh cx)
  -- a child leaves the scopes and the depth as it found them
  have hrestored : Restored now (walkNode v child now) := visit_restores hv.tokens _ child now
  exact hnow.of_gains (hgains child now hnow) (.refl cx.fresh) hrestored ⟨.refl _, rfl⟩

/-! ### Territories -/

/-- The step stays in a territory, if it is one to another node. -/
def Step.Within (territory : Node → Prop) : Step σ → Prop
  | .visit node => territory node
  | _ => True

/-- `v.SameOn w territory`: both visitors do the same at the nodes of the territory, and walk from
there only to nodes of the territory. -/
def Visitor.SameOn (v w : Visitor σ) (territory : Node → Prop) : Prop :=
  ∀ node, territory node →
    w.handle node = v.handle node ∧ (v.handle node).Only (Step.Within territory)

/-- A plan that stays in a territory does not tell ways of walking apart that are the same there. -/
theorem Plan.run_eq_of_within {territory : Node → Prop} {walk walk' : Node → Context σ → Context σ}
    (hwalk : ∀ node, territory node → ∀ cx, walk node cx = walk' node cx) {p : Plan σ α}
    (hp : p.Only (Step.Within territory)) (cx : Context σ) : p.run walk cx = p.run walk' cx := by
  induction p generalizing cx with
  | done | fail => rfl
  | enter name next ih | isActive name next ih => exact ih _ (hp.2 _) _
  | scopeDepth next ih | faultCount next ih | inspect next ih => exact ih _ (hp.2 _) _
  | leave token next ih | restore target next ih | suggest text next ih => exact ih hp.2 _
  | report node message next ih => exact ih hp.2 _
  | visit node next ih =>
    rw [run, run, hwalk node hp.1 cx]
    exact ih hp.2 _
  | remember memory next ih => exact ih hp.2 _

/-- Visitors that do the same in a territory walk its nodes in the same way. -/
theorem visit_eq_of_sameOn {v w : Visitor σ} {territory : Node → Prop}
    (h : v.SameOn w territory) (room : Nat) {node : Node} (hnode : territory node)
    (cx : Context σ) : visit v room node cx = visit w room node cx := by
  induction room generalizing node cx with
  | zero => rfl
  | succ room ih =>
    obtain ⟨hhandle, hwithin⟩ := h node hnode
    rw [visit_succ, visit_succ, hhandle,
      Plan.run_eq_of_within (fun node' hnode' cx' => ih hnode' cx') hwithin]

theorem contribution_eq_of_sameOn {v w : Visitor σ} {territory : Node → Prop}
    (h : v.SameOn w territory) {node : Node} (hnode : territory node) (cx : Context σ) :
    contribution w cx node = contribution v cx node := by
  unfold contribution walkNode
  rw [visit_eq_of_sameOn h _ hnode]

end Walk

end SuiteLint
