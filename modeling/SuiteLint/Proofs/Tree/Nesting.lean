import Mathlib.Data.List.Chain
import Mathlib.Data.List.Lex
import SuiteLint.Proofs.Tree.Height

/-!
# Well-nested trees and the order of their nodes

In a tree as a parser makes it, children lie inside their parent and one after the other
(`Node.WellNested`).  A *route* leads from a node to one of its descendants: it lists the numbers of
the children on the way, tokens and comments included.  One route *precedes* another one if they
part somewhere and it takes the earlier child there.

Nodes are `LaidOut` below another one if routes lead to them of which each precedes the next: then
no two of them are the same node of the tree, and none is above another.  Layouts compose
(`LaidOut.flatMap`), so what is gathered by going down from nodes to some of their descendants is
laid out again.  In a well-nested tree the bytes show the layout (`LaidOut.inside`,
`LaidOut.apart`).
-/

namespace SuiteLint.Tree

/-! ### Well-nested trees -/

/-- **Well-nested tree**. -/
inductive Node.WellNested : Node → Prop where
  /-- A node covers a range of bytes, its children lie in that range, each of them ends no later
  than the next one starts, and they are well nested themselves. -/
  | intro {node : Node} (range : node.start ≤ node.stop)
      (inside : ∀ child ∈ node.children, node.start ≤ child.start ∧ child.stop ≤ node.stop)
      (chained : node.children.IsChain fun a b => a.stop ≤ b.start)
      (below : ∀ child ∈ node.children, child.WellNested) : node.WellNested

namespace Node.WellNested

theorem range {node : Node} (h : node.WellNested) : node.start ≤ node.stop := by
  cases h with
  | intro range => exact range

/-- Children are in order throughout, not only neighbours: those in between cover ranges. -/
theorem apart {node : Node} (h : node.WellNested) :
    node.children.Pairwise fun a b => a.stop ≤ b.start := by
  obtain ⟨-, -, chained, below⟩ := h
  have hrange : ∀ child ∈ node.children, child.start ≤ child.stop :=
    fun child hchild => (below child hchild).range
  clear below
  generalize node.children = siblings at chained hrange ⊢
  induction siblings with
  | nil => exact .nil
  | cons first rest ih =>
    rw [List.forall_mem_cons] at hrange
    rw [List.isChain_cons] at chained
    have hrest := ih chained.2 hrange.2
    refine List.pairwise_cons.mpr ⟨fun node hnode => ?_, hrest⟩
    cases rest with
    | nil => exact absurd hnode List.not_mem_nil
    | cons second rest =>
      have hfirst : first.stop ≤ second.start := chained.1 second rfl
      rcases List.mem_cons.mp hnode with rfl | hnode
      · exact hfirst
      · have hsecond := hrange.2 second List.mem_cons_self
        have hlast := (List.pairwise_cons.mp hrest).1 node hnode
        omega

end Node.WellNested

mutual

/-- Whether a tree is well nested can be checked. -/
def Node.decideWellNested : (node : Node) → Decidable node.WellNested
  | ⟨label, start, stop, named, field, text, children⟩ =>
    let node : Node := ⟨label, start, stop, named, field, text, children⟩
    have := decideAllWellNested children
    decidable_of_iff (node.start ≤ node.stop ∧
        (∀ child ∈ node.children, node.start ≤ child.start ∧ child.stop ≤ node.stop) ∧
        (node.children.IsChain fun a b => a.stop ≤ b.start) ∧
        ∀ child ∈ node.children, child.WellNested)
      ⟨fun ⟨range, inside, chained, below⟩ => .intro range inside chained below,
        fun ⟨range, inside, chained, below⟩ => ⟨range, inside, chained, below⟩⟩

/-- Whether all trees of a list are well nested. -/
def Node.decideAllWellNested : (nodes : List Node) → Decidable (∀ node ∈ nodes, node.WellNested)
  | [] => isTrue fun _ h => absurd h List.not_mem_nil
  | first :: rest =>
    have := first.decideWellNested
    have := decideAllWellNested rest
    decidable_of_iff (first.WellNested ∧ ∀ node ∈ rest, node.WellNested) List.forall_mem_cons.symm

end

instance : DecidablePred Node.WellNested := Node.decideWellNested

/-! ### Routes -/

/-- **The descendant at the end of a route**. -/
def Node.descendant? : Node → (route : List Nat) → Option Node
  | node, [] => some node
  | node, i :: route => node.children[i]?.bind fun child => child.descendant? route

/-- `Precedes route route'`: the routes part at some node, where the first one takes the earlier
child. -/
def Precedes (route route' : List Nat) : Prop :=
  ∃ common i j, i < j ∧ common ++ [i] <+: route ∧ common ++ [j] <+: route'

namespace Precedes

variable {route route' : List Nat}

/-- Where routes have parted, it does not matter how they go on. -/
theorem mono {longer longer' : List Nat} (h : Precedes route route') (hlonger : route <+: longer)
    (hlonger' : route' <+: longer') : Precedes longer longer' := by
  obtain ⟨common, i, j, hij, hi, hj⟩ := h
  exact ⟨common, i, j, hij, hi.trans hlonger, hj.trans hlonger'⟩

theorem append_left (h : Precedes route route') (start : List Nat) :
    Precedes (start ++ route) (start ++ route') := by
  obtain ⟨common, i, j, hij, hi, hj⟩ := h
  refine ⟨start ++ common, i, j, hij, ?_, ?_⟩
  · rw [List.append_assoc]
    exact (List.prefix_append_right_inj start).mpr hi
  · rw [List.append_assoc]
    exact (List.prefix_append_right_inj start).mpr hj

/-- The first route is smaller in lexicographic order. -/
theorem lt (h : Precedes route route') : route < route' := by
  obtain ⟨common, i, j, hij, ⟨rest, rfl⟩, ⟨rest', rfl⟩⟩ := h
  rw [List.append_assoc, List.append_assoc]
  exact List.append_left_lt (List.cons_lt_cons_iff.mpr (Or.inl hij))

/-- The first route does not pass on to the second. -/
theorem not_isPrefix (h : Precedes route route') : ¬ route <+: route' := by
  obtain ⟨common, i, j, hij, hi, hj⟩ := h
  intro hpass
  have hlength : (common ++ [i]).length = (common ++ [j]).length := by
    rw [List.length_append, List.length_append, List.length_singleton, List.length_singleton]
  have heq := (List.prefix_of_prefix_length_le (hi.trans hpass) hj hlength.le).eq_of_length hlength
  obtain rfl : i = j := List.singleton_inj.mp (List.append_cancel_left heq)
  exact Nat.lt_irrefl i hij

end Precedes

theorem Node.descendant?_append (root : Node) (route rest : List Nat) :
    root.descendant? (route ++ rest)
      = (root.descendant? route).bind fun node => node.descendant? rest := by
  induction route generalizing root with
  | nil => rfl
  | cons i route ih =>
    rw [List.cons_append, descendant?, descendant?, Option.bind_assoc]
    exact congrArg _ (funext ih)

namespace Node.WellNested

variable {root node : Node} {route : List Nat}

/-- **Descendants** of a well-nested node are well nested and lie inside it. -/
theorem descendant (h : root.WellNested) (hnode : root.descendant? route = some node) :
    node.WellNested ∧ root.start ≤ node.start ∧ node.stop ≤ root.stop := by
  induction route generalizing root with
  | nil =>
    obtain rfl : root = node := Option.some.inj hnode
    exact ⟨h, Nat.le_refl _, Nat.le_refl _⟩
  | cons i route ih =>
    obtain ⟨child, hchild, hnode⟩ := Option.bind_eq_some_iff.mp hnode
    have hmem : child ∈ root.children := List.mem_of_getElem? hchild
    obtain ⟨-, inside, -, below⟩ := h
    obtain ⟨hnested, hstart, hstop⟩ := ih (below child hmem) hnode
    obtain ⟨hstart', hstop'⟩ := inside child hmem
    exact ⟨hnested, Nat.le_trans hstart' hstart, Nat.le_trans hstop hstop'⟩

/-- **Routes and bytes**: what a preceding route leads to ends before the other starts. -/
theorem stop_le_start {route' : List Nat} {node' : Node} (h : root.WellNested)
    (hprecedes : Precedes route route') (hnode : root.descendant? route = some node)
    (hnode' : root.descendant? route' = some node') : node.stop ≤ node'.start := by
  obtain ⟨common, i, j, hij, ⟨rest, rfl⟩, ⟨rest', rfl⟩⟩ := hprecedes
  rw [List.append_assoc, Node.descendant?_append] at hnode hnode'
  -- at the fork, the two routes go on to children `i` and `j`
  obtain ⟨fork, hfork, hnode⟩ := Option.bind_eq_some_iff.mp hnode
  rw [hfork, Option.bind_some] at hnode'
  obtain ⟨left, hleft, hnode⟩ := Option.bind_eq_some_iff.mp hnode
  obtain ⟨right, hright, hnode'⟩ := Option.bind_eq_some_iff.mp hnode'
  have hnested := (h.descendant hfork).1
  obtain ⟨hi, rfl⟩ := List.getElem?_eq_some_iff.mp hleft
  obtain ⟨hj, rfl⟩ := List.getElem?_eq_some_iff.mp hright
  have hapart := List.pairwise_iff_getElem.mp hnested.apart i j hi hj hij
  obtain ⟨-, -, -, below⟩ := hnested
  have hinside := ((below _ (List.getElem_mem hi)).descendant hnode).2.2
  have hinside' := ((below _ (List.getElem_mem hj)).descendant hnode').2.1
  omega

end Node.WellNested

/-! ### Layouts -/

/-- `LaidOut root nodes`: the nodes are the root or below it, at the ends of routes each of which
precedes the next. -/
def LaidOut (root : Node) (nodes : List Node) : Prop :=
  ∃ routes : List (List Nat), routes.Pairwise Precedes ∧
    routes.map root.descendant? = nodes.map some

namespace LaidOut

variable {root : Node} {nodes : List Node}

theorem self (root : Node) : LaidOut root [root] :=
  ⟨[[]], List.pairwise_singleton _ _, rfl⟩

theorem nil (root : Node) : LaidOut root [] :=
  ⟨[], .nil, rfl⟩

theorem sublist {fewer : List Node} (h : LaidOut root nodes) (hfewer : fewer.Sublist nodes) :
    LaidOut root fewer := by
  obtain ⟨routes, hroutes, hnodes⟩ := h
  have hmap : (fewer.map some).Sublist (routes.map root.descendant?) := hnodes ▸ hfewer.map some
  obtain ⟨routes', hroutes', heq⟩ := List.sublist_map_iff.mp hmap
  exact ⟨routes', hroutes.sublist hroutes', heq.symm⟩

/-- The children of a node are laid out below it. -/
theorem children (root : Node) : LaidOut root root.children := by
  refine ⟨(List.range root.children.length).map fun i => [i], ?_, ?_⟩
  · rw [List.pairwise_map]
    exact List.pairwise_lt_range.imp fun {i j} hij =>
      ⟨[], i, j, hij, List.prefix_rfl, List.prefix_rfl⟩
  · refine List.ext_getElem (by simp) fun i hi _ => ?_
    simp [Node.descendant?]

/-- **Layouts compose**: where some nodes are laid out below a root, and others below each of them,
all of these are laid out below the root. -/
theorem flatMap {f : Node → List Node} (h : LaidOut root nodes)
    (hf : ∀ node ∈ nodes, LaidOut node (f node)) : LaidOut root (nodes.flatMap f) := by
  obtain ⟨routes, hroutes, hnodes⟩ := h
  -- the new routes are longer than the old ones, and so precede one another as these do
  suffices hlonger : ∃ longer : List (List Nat), longer.Pairwise Precedes ∧
      longer.map root.descendant? = (nodes.flatMap f).map some ∧
      ∀ route ∈ longer, ∃ start ∈ routes, start <+: route by
    obtain ⟨longer, hlonger, hends, -⟩ := hlonger
    exact ⟨longer, hlonger, hends⟩
  induction nodes generalizing routes with
  | nil => exact ⟨[], .nil, rfl, fun _ h => absurd h List.not_mem_nil⟩
  | cons node rest ih =>
    rw [List.forall_mem_cons] at hf
    obtain ⟨start, starts, rfl, hnode, hrest⟩ := List.map_eq_cons_iff.mp hnodes
    rw [List.pairwise_cons] at hroutes
    obtain ⟨inner, hinner, hends⟩ := hf.1
    obtain ⟨longer, hlonger, hends', hstarts⟩ := ih hf.2 starts hroutes.2 hrest
    refine ⟨inner.map (start ++ ·) ++ longer, ?_, ?_, ?_⟩
    · refine List.pairwise_append.mpr ⟨?_, hlonger, fun route hroute route' hroute' => ?_⟩
      · rw [List.pairwise_map]
        exact hinner.imp fun h => h.append_left start
      · obtain ⟨more, -, rfl⟩ := List.mem_map.mp hroute
        obtain ⟨start', hstart', hlong⟩ := hstarts route' hroute'
        exact (hroutes.1 start' hstart').mono (List.prefix_append start more) hlong
    · rw [List.map_append, hends', List.flatMap_cons, List.map_append, List.map_map, ← hends]
      refine congrArg (· ++ _) (List.map_congr_left fun more _ => ?_)
      rw [Function.comp_apply, Node.descendant?_append, hnode, Option.bind_some]
    · intro route hroute
      rcases List.mem_append.mp hroute with hroute | hroute
      · obtain ⟨more, -, rfl⟩ := List.mem_map.mp hroute
        exact ⟨start, List.mem_cons_self, List.prefix_append start more⟩
      · obtain ⟨start', hstart', hlong⟩ := hstarts route hroute
        exact ⟨start', List.mem_cons_of_mem _ hstart', hlong⟩

/-! ### What the views hand out -/

theorem namedChildren (root : Node) : LaidOut root root.namedChildren :=
  (children root).sublist List.filter_sublist

theorem child {child : Node} (h : child ∈ root.children) : LaidOut root [child] :=
  (children root).sublist (List.singleton_sublist.mpr h)

theorem through {child : Node} (h : child ∈ root.children) (hnodes : LaidOut child nodes) :
    LaidOut root nodes := by
  have hflat := (LaidOut.child h).flatMap (f := fun _ => nodes) fun node hnode => by
    rw [List.mem_singleton.mp hnode]
    exact hnodes
  rwa [List.flatMap_singleton] at hflat

theorem field? (root : Node) (name : String) : LaidOut root (root.field? name).toList := by
  cases h : root.field? name with
  | none => exact nil root
  | some held => exact child (Node.mem_children_of_field? h)

/-! ### Layouts in bytes -/

/-- A node that is laid out is at the end of some route. -/
theorem exists_route {node : Node} (h : LaidOut root nodes) (hnode : node ∈ nodes) :
    ∃ route, root.descendant? route = some node := by
  obtain ⟨routes, -, hnodes⟩ := h
  have hmem : some node ∈ routes.map root.descendant? := hnodes ▸ List.mem_map_of_mem hnode
  obtain ⟨route, -, hroute⟩ := List.mem_map.mp hmem
  exact ⟨route, hroute⟩

theorem wellNested {node : Node} (h : LaidOut root nodes) (hroot : root.WellNested)
    (hnode : node ∈ nodes) : node.WellNested := by
  obtain ⟨route, hroute⟩ := h.exists_route hnode
  exact (hroot.descendant hroute).1

theorem inside {node : Node} (h : LaidOut root nodes) (hroot : root.WellNested)
    (hnode : node ∈ nodes) : root.start ≤ node.start ∧ node.stop ≤ root.stop := by
  obtain ⟨route, hroute⟩ := h.exists_route hnode
  exact (hroot.descendant hroute).2

/-- **Laid out in bytes**: each node ends no later than the next ones start. -/
theorem apart (h : LaidOut root nodes) (hroot : root.WellNested) :
    nodes.Pairwise fun a b => a.stop ≤ b.start := by
  obtain ⟨routes, hroutes, hnodes⟩ := h
  have hends : (routes.map root.descendant?).Pairwise fun a b =>
      ∀ x ∈ a, ∀ y ∈ b, x.stop ≤ y.start := by
    rw [List.pairwise_map]
    exact hroutes.imp fun h x hx y hy => hroot.stop_le_start h hx hy
  rw [hnodes, List.pairwise_map] at hends
  exact hends.imp fun {a b} h => h a rfl b rfl

end LaidOut

end SuiteLint.Tree
