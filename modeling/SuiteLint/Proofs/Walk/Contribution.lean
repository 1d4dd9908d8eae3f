import Mathlib.Algebra.GroupWithZero.Nat
import SuiteLint.Proofs.Walk.Effect

/-!
# What walks contribute

A walk leaves its marks on a context in three places: it appends reports, it appends faults, and it
counts the nodes it meets.  A `Contribution` is what it adds there, and `Gains` says that a context
comes out of another one by such an addition.  Contributions of parts add up to that of the whole:
over the entry and the boundary of a node (`gains_entered`, `Gains.settle`), and over a list of
nodes (`walkAll_gains`).
-/

namespace SuiteLint.Walk

open SuiteLint.Tree (Node)

variable {σ : Type}

/-! ### Contributions -/

/-- **Contribution** of a walk to its context. -/
structure Contribution where
  /-- The reports it appends. -/
  diagnostics : List Diagnostic := []
  /-- The faults it appends. -/
  faults : List Fault := []
  /-- The number of nodes it meets. -/
  visited : Nat := 0

namespace Contribution

/-- One contribution after another. -/
instance : Append Contribution where
  append first second :=
    { diagnostics := first.diagnostics ++ second.diagnostics
      faults := first.faults ++ second.faults
      visited := first.visited + second.visited }

/-- **All contributions of a list**, one after the other. -/
def total (parts : List Contribution) : Contribution :=
  { diagnostics := parts.flatMap diagnostics
    faults := parts.flatMap faults
    visited := (parts.map visited).sum }

theorem total_cons (first : Contribution) (rest : List Contribution) :
    total (first :: rest) = first ++ total rest :=
  rfl

theorem total_append (parts parts' : List Contribution) :
    total (parts ++ parts') = total parts ++ total parts' := by
  unfold total
  rw [List.flatMap_append, List.flatMap_append, List.map_append, List.sum_append]
  rfl

/-- What a context has gathered. -/
def gathered (cx : Context σ) : Contribution :=
  { diagnostics := cx.reporter.diagnostics, faults := cx.faults, visited := cx.visited }

end Contribution

/-! ### Gains -/

/-- `cx.Gains c after`: from `cx` to `after`, reports, faults and counter have grown by `c`, and
what the handlers remember is the same. -/
structure Context.Gains (cx : Context σ) (c : Contribution) (after : Context σ) : Prop where
  /-- The reports have grown, and the reporter is otherwise the same. -/
  reporter : after.reporter = cx.reporter.adding c.diagnostics
  /-- The faults have grown. -/
  faults : after.faults = cx.faults ++ c.faults
  /-- The counter has grown. -/
  visited : after.visited = cx.visited + c.visited
  /-- The memory is the same. -/
  memory : after.memory = cx.memory

namespace Context

theorem Gains.refl (cx : Context σ) : cx.Gains {} cx :=
  ⟨(Reporter.adding_nil _).symm, (List.append_nil _).symm, rfl, rfl⟩

theorem Gains.trans {cx cx' cx'' : Context σ} {c c' : Contribution} (h : cx.Gains c cx')
    (h' : cx'.Gains c' cx'') : cx.Gains (c ++ c') cx'' := by
  refine ⟨?_, ?_, ?_, h'.memory.trans h.memory⟩
  · rw [h'.reporter, h.reporter, Reporter.adding_adding]
    rfl
  · rw [h'.faults, h.faults, List.append_assoc]
    rfl
  · rw [h'.visited, h.visited, Nat.add_assoc]
    rfl

/-- Entering a node counts it. -/
theorem gains_entered (cx : Context σ) : cx.Gains { visited := 1 } cx.entered :=
  ⟨(Reporter.adding_nil _).symm, (List.append_nil _).symm, rfl, rfl⟩

/-- The fault that a handler's result stands for. -/
def faultOf : Except Fault Unit → List Fault
  | .ok _ => []
  | .error fault => [fault]

/-- The boundary around a node adds the fault of its handler. -/
theorem Gains.settle {cx start : Context σ} {c : Contribution}
    {outcome : Except Fault Unit × Context σ} (h : start.Gains c outcome.2) :
    start.Gains (c ++ { faults := faultOf outcome.1 }) (cx.settle outcome) := by
  refine h.trans ?_
  obtain ⟨result, after⟩ := outcome
  cases result with
  | ok => exact ⟨(Reporter.adding_nil _).symm, (List.append_nil _).symm, rfl, rfl⟩
  | error fault => exact ⟨(Reporter.adding_nil _).symm, rfl, rfl, rfl⟩

end Context

/-- A node at the limit is counted and yields a fault. -/
theorem visit_zero_gains (v : Visitor σ) (node : Node) (cx : Context σ) :
    cx.Gains { faults := [.tooDeep node.label node.start maxDepth], visited := 1 }
      (visit v 0 node cx) :=
  ⟨(Reporter.adding_nil _).symm, rfl, rfl, rfl⟩

/-- If walking a node contributes a certain amount, from every context of a certain kind and into
another one of that kind, then walking a list contributes the amounts of its nodes in order. -/
theorem walkAll_gains {walk : Node → Context σ → Context σ} {Ready : Context σ → Prop}
    {amount : Node → Contribution} {nodes : List Node}
    (hready : ∀ node ∈ nodes, ∀ cx, Ready cx → Ready (walk node cx))
    (hwalk : ∀ node ∈ nodes, ∀ cx, Ready cx → cx.Gains (amount node) (walk node cx))
    {cx : Context σ} (hcx : Ready cx) :
    cx.Gains (.total (nodes.map amount)) (walkAll walk nodes cx) := by
  induction nodes generalizing cx with
  | nil => exact .refl cx
  | cons node rest ih =>
    rw [List.forall_mem_cons] at hready hwalk
    have hfirst : cx.Gains (amount node) (walk node cx) := hwalk.1 cx hcx
    have hrest := ih hready.2 hwalk.2 (hready.1 cx hcx)
    rw [List.map_cons, Contribution.total_cons]
    exact hfirst.trans hrest

end SuiteLint.Walk
