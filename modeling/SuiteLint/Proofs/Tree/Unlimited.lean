import Mathlib.Data.List.Basic
import Mathlib.Data.Nat.Init
import SuiteLint.Proofs.Tree.Height

/-!
# The classifier without a nesting limit

`isConstant` and `suspects` carry the number of levels they may still go down.  This module has the
same clauses without that number: `constant` and `unlimitedSuspects` recurse on the expression
itself.  The main statements compare the two:

* `isConstant_iff`: with `room` levels an expression passes as constant iff it is constant and its
  operators take up fewer than `room` levels (`operatorDepth`);
* `suspects_eq_unlimited`: with more levels than the expression is high, nothing is cut off.
-/

namespace SuiteLint.Tree

/-! ### Operands -/

/-- **Operands** that the constant test goes on to: those of a complete operation, the content of
parentheses, none for a literal.  Anything else is not a constant combination at all. -/
def operands? (expr : Node) : Option (List Node) :=
  match expr.kind with
  | .binaryExpression =>
    match expr.field? "left", expr.field? "right" with
    | some left, some right => some [left, right]
    | _, _ => none
  | .unaryExpression => (expr.field? "argument").map (fun argument => [argument])
  | .parenthesizedExpression => expr.namedChildren.head?.map (fun inner => [inner])
  | kind => if kind.isLiteral then some [] else none

/-- One level of the constant test. -/
theorem isConstant_succ (room : Nat) (expr : Node) :
    isConstant (room + 1) expr = (operands? expr).any (fun os => os.all (isConstant room)) := by
  rw [isConstant]
  unfold operands?
  by_cases hbinary : expr.kind = .binaryExpression
  · rw [hbinary]
    dsimp only
    cases expr.field? "left" <;> cases expr.field? "right" <;> simp
  by_cases hunary : expr.kind = .unaryExpression
  · rw [hunary]
    dsimp only
    cases expr.field? "argument" <;> simp
  by_cases hparentheses : expr.kind = .parenthesizedExpression
  · rw [hparentheses]
    dsimp only
    cases expr.namedChildren.head? <;> simp
  -- no operator: the answer is whether the kind is that of a literal
  split
  · contradiction
  · contradiction
  · contradiction
  · by_cases hliteral : expr.kind.isLiteral = true <;> simp [hliteral]

theorem height_lt_of_operands? {expr operand : Node} {os : List Node}
    (h : operands? expr = some os) (hmem : operand ∈ os) : operand.height < expr.height := by
  unfold operands? at h
  split at h
  · split at h
    · rename_i left right hleft hright
      obtain rfl := Option.some.inj h
      rcases List.mem_cons.mp hmem with rfl | hmem
      · exact Node.height_lt_of_field? hleft
      · exact List.mem_singleton.mp hmem ▸ Node.height_lt_of_field? hright
    · simp at h
  · obtain ⟨argument, hargument, rfl⟩ := Option.map_eq_some_iff.mp h
    exact List.mem_singleton.mp hmem ▸ Node.height_lt_of_field? hargument
  · obtain ⟨inner, hinner, rfl⟩ := Option.map_eq_some_iff.mp h
    exact List.mem_singleton.mp hmem ▸ Node.height_lt_of_head? hinner
  · split_ifs at h
    obtain rfl := Option.some.inj h
    simp at hmem

/-! ### Constants of any depth -/

/-- **Constant expression**, however deep. -/
def constant (expr : Node) : Bool :=
  match _ : operands? expr with
  | none => false
  | some os => os.attach.all (fun ⟨operand, _⟩ => constant operand)
termination_by expr.height
decreasing_by exact height_lt_of_operands? ‹_› ‹_›

/-- The number of levels below an expression that the constant test goes through. -/
def operatorDepth (expr : Node) : Nat :=
  match _ : operands? expr with
  | none => 0
  | some os => (os.attach.map (fun ⟨operand, _⟩ => operatorDepth operand + 1)).foldr max 0
termination_by expr.height
decreasing_by exact height_lt_of_operands? ‹_› ‹_›

theorem constant_of_none {expr : Node} (h : operands? expr = none) : constant expr = false := by
  rw [constant]
  split <;> simp_all

theorem constant_of_some {expr : Node} {os : List Node} (h : operands? expr = some os) :
    constant expr = os.all constant := by
  rw [constant]
  split
  · simp_all
  · rename_i os' h'
    obtain rfl := Option.some.inj (h'.symm.trans h)
    simp

theorem operatorDepth_of_none {expr : Node} (h : operands? expr = none) :
    operatorDepth expr = 0 := by
  rw [operatorDepth]
  split <;> simp_all

theorem operatorDepth_of_some {expr : Node} {os : List Node} (h : operands? expr = some os) :
    operatorDepth expr = (os.map (fun operand => operatorDepth operand + 1)).foldr max 0 := by
  rw [operatorDepth]
  split
  · simp_all
  · rename_i os' h'
    obtain rfl := Option.some.inj (h'.symm.trans h)
    simp

theorem foldr_max_lt_iff (ns : List Nat) (bound : Nat) :
    ns.foldr max 0 < bound + 1 ↔ ∀ n ∈ ns, n < bound + 1 := by
  induction ns with
  | nil => simp
  | cons n rest ih =>
    rw [List.foldr_cons, Nat.max_lt, ih, List.forall_mem_cons]

/-- The operators of an expression take up fewer than `room + 1` levels iff those of its operands
take up fewer than `room`. -/
theorem operatorDepth_lt_succ_iff {expr : Node} {os : List Node} (h : operands? expr = some os)
    (room : Nat) :
    operatorDepth expr < room + 1 ↔ ∀ operand ∈ os, operatorDepth operand < room := by
  rw [operatorDepth_of_some h, foldr_max_lt_iff, List.forall_mem_map]
  simp only [Nat.add_lt_add_iff_right]

/-- **What the level count does to the constant test**: an expression passes iff it is constant and
its operators end before the levels do. -/
theorem isConstant_iff (room : Nat) (expr : Node) :
    isConstant room expr = true ↔ constant expr = true ∧ operatorDepth expr < room := by
  induction room generalizing expr with
  | zero => simp [isConstant]
  | succ room ih =>
    rw [isConstant_succ]
    cases h : operands? expr with
    | none => simp [constant_of_none h]
    | some os =>
      rw [Option.any_some, List.all_eq_true, constant_of_some h, List.all_eq_true,
        operatorDepth_lt_succ_iff h, ← forall₂_and]
      exact forall₂_congr fun operand _ => ih operand

theorem operatorDepth_le_height (expr : Node) : operatorDepth expr ≤ expr.height := by
  induction hn : expr.height using Nat.strong_induction_on generalizing expr with
  | _ n ih =>
  subst hn
  cases h : operands? expr with
  | none =>
    rw [operatorDepth_of_none h]
    exact Nat.zero_le _
  | some os =>
    refine Nat.le_of_lt_succ ((operatorDepth_lt_succ_iff h _).mpr fun operand hmem => ?_)
    have hlt := height_lt_of_operands? h hmem
    have := ih operand.height hlt operand rfl
    omega

/-! ### Suspect parts of any depth -/

/-- **Suspect parts**, however deep they lie. -/
def unlimitedSuspects (settings : ClassifierSettings) (expr : Node) : List Node :=
  match _ : shape expr with
  | .harmless => []
  | .made parts => parts.attach.flatMap (fun ⟨part, _⟩ => unlimitedSuspects settings part)
  | .single => if settings.admits expr || constant expr then [] else [expr]
termination_by expr.height
decreasing_by exact height_lt_of_shape_made ‹_› ‹_›

section

variable {settings : ClassifierSettings} {expr : Node}

theorem unlimitedSuspects_harmless (h : shape expr = .harmless) :
    unlimitedSuspects settings expr = [] := by
  rw [unlimitedSuspects]
  split <;> simp_all

theorem unlimitedSuspects_made {parts : List Node} (h : shape expr = .made parts) :
    unlimitedSuspects settings expr = parts.flatMap (unlimitedSuspects settings) := by
  rw [unlimitedSuspects]
  split
  · simp_all
  · rename_i parts' h'
    obtain rfl := Shape.made.inj (h'.symm.trans h)
    simp
  · simp_all

theorem unlimitedSuspects_single (h : shape expr = .single) :
    unlimitedSuspects settings expr
      = if settings.admits expr || constant expr then [] else [expr] := by
  rw [unlimitedSuspects]
  split <;> simp_all

end

/-- **Nothing is cut off** as long as there are more levels than the expression is high. -/
theorem suspects_eq_unlimited (settings : ClassifierSettings) (room : Nat) (expr : Node)
    (h : expr.height < room) : suspects settings room expr = unlimitedSuspects settings expr := by
  induction room generalizing expr with
  | zero => omega
  | succ room ih =>
    rw [suspects]
    cases hshape : shape expr with
    | harmless => rw [unlimitedSuspects_harmless hshape]
    | made parts =>
      rw [unlimitedSuspects_made hshape]
      refine List.flatMap_congr fun part hpart => ih part ?_
      have := height_lt_of_shape_made hshape hpart
      omega
    | single =>
      -- the operators reach no deeper than the expression, so the constant test is not cut off
      have hdepth : operatorDepth expr < room + 1 :=
        Nat.lt_of_le_of_lt (operatorDepth_le_height expr) h
      have hconst : isConstant (room + 1) expr = constant expr := by
        rw [Bool.eq_iff_iff, isConstant_iff]
        exact and_iff_left hdepth
      rw [unlimitedSuspects_single hshape]
      simp only [hconst]

end SuiteLint.Tree
