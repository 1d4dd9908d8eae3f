import Mathlib.Tactic.SplitIfs
import SuiteLint.Tree.Classifier

/-!
# Height of a syntax tree

`Node.height` counts the steps from a node down to its deepest descendant.  Whatever the views of a
node or the classifier hand out lies strictly below it (`height_lt_of_mem_namedChildren`,
`height_lt_of_field?`, `height_lt_of_shape_made`), so the height is what recursions over
expressions descend on, and what limits on their depth are compared with.
-/

namespace SuiteLint.Tree

/-! ### The height -/

namespace Node

mutual

/-- **Height**: the number of steps to the deepest descendant, tokens and comments included.  A
node without children has height zero. -/
def height : Node → Nat
  | ⟨_, _, _, _, _, _, children⟩ => levels children

/-- The number of levels that a list of siblings takes up. -/
def levels : List Node → Nat
  | [] => 0
  | child :: rest => max (child.height + 1) (levels rest)

end

theorem height_eq_levels (node : Node) : node.height = levels node.children := by
  cases node
  rw [height]

theorem height_lt_levels {child : Node} {siblings : List Node} (h : child ∈ siblings) :
    child.height < levels siblings := by
  induction siblings with
  | nil => simp at h
  | cons first rest ih =>
    rw [levels]
    rcases List.mem_cons.mp h with rfl | hrest
    · omega
    · have := ih hrest
      omega

theorem height_lt_of_mem_children {node child : Node} (h : child ∈ node.children) :
    child.height < node.height := by
  rw [height_eq_levels node]
  exact height_lt_levels h

/-! ### What the views hand out -/

theorem mem_children_of_mem_namedChildren {node child : Node} (h : child ∈ node.namedChildren) :
    child ∈ node.children :=
  (List.mem_filter.mp h).1

theorem mem_children_of_field? {node child : Node} {name : String}
    (h : node.field? name = some child) : child ∈ node.children :=
  List.mem_of_find?_eq_some h

theorem height_lt_of_mem_namedChildren {node child : Node} (h : child ∈ node.namedChildren) :
    child.height < node.height :=
  height_lt_of_mem_children (mem_children_of_mem_namedChildren h)

theorem height_lt_of_head? {node child : Node} (h : node.namedChildren.head? = some child) :
    child.height < node.height :=
  height_lt_of_mem_namedChildren (List.mem_of_mem_head? h)

theorem height_lt_of_field? {node child : Node} {name : String}
    (h : node.field? name = some child) : child.height < node.height :=
  height_lt_of_mem_children (mem_children_of_field? h)

end Node

/-! ### What the classifier descends to -/

theorem height_lt_of_wrapped? {expr inner : Node} (h : wrapped? expr = some inner) :
    inner.height < expr.height := by
  unfold wrapped? at h
  rcases Option.or_eq_some_iff.mp h with hfield | ⟨_, hfind⟩
  · exact Node.height_lt_of_field? hfield
  · exact Node.height_lt_of_mem_namedChildren (List.mem_of_find?_eq_some hfind)

theorem height_le_of_mem_propertyParts {property part : Node} (h : part ∈ propertyParts property) :
    part.height ≤ property.height := by
  unfold propertyParts at h
  split at h
  · exact Nat.le_of_lt (Node.height_lt_of_field? (Option.mem_toList.mp h))
  · exact (List.mem_singleton.mp h) ▸ Nat.le_refl _
  · simp at h

/-- The parts that an expression is made of lie strictly below it. -/
theorem height_lt_of_shape_made {expr part : Node} {parts : List Node}
    (h : shape expr = .made parts) (hpart : part ∈ parts) : part.height < expr.height := by
  unfold shape at h
  dsimp only at h
  split_ifs at h
  · -- a wrapper
    obtain rfl := Shape.made.inj h
    exact height_lt_of_wrapped? (Option.mem_toList.mp hpart)
  · -- an array, an object, a spread; the other kinds have no parts
    split at h
    · obtain rfl := Shape.made.inj h
      exact Node.height_lt_of_mem_namedChildren hpart
    · obtain rfl := Shape.made.inj h
      obtain ⟨property, hproperty, hmem⟩ := List.mem_flatMap.mp hpart
      exact Nat.lt_of_le_of_lt (height_le_of_mem_propertyParts hmem)
        (Node.height_lt_of_mem_namedChildren hproperty)
    · obtain rfl := Shape.made.inj h
      exact Node.height_lt_of_head? (Option.mem_toList.mp hpart)
    all_goals simp at h

end SuiteLint.Tree
