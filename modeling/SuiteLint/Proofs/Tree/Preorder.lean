import Mathlib.Data.List.Basic
import SuiteLint.Tree.Node

/-!
# The tree of named children in preorder

A place in a tree has an *address*: the numbers of the named children that lead to it from the root,
the root's own address being empty.  `preorder` lists the places in the first levels of a tree, cut
below certain closed nodes.  Three facts say that it lists the right ones in the right order:

* `mem_preorder_iff`: a place is listed iff its address leads to its node, has few enough steps, and
  passes no closed node;
* `pairwise_preorder`: addresses increase strictly in lexicographic order, so a node comes before
  what is below it and after what is below its earlier siblings, and no place is listed twice;
* `flatMap_preorder`: what is gathered from the list is gathered from the root and then from each
  child's list in turn.
-/

namespace SuiteLint.Tree

/-! ### Addresses -/

/-- **The node at an address**. -/
def Node.at? : Node → (address : List Nat) → Option Node
  | node, [] => some node
  | node, i :: rest => node.namedChildren[i]?.bind fun child => child.at? rest

/-- **Site**: a node and the address it was found at. -/
structure Site where
  /-- The numbers of the children on the way. -/
  address : List Nat
  /-- The node. -/
  node : Node

namespace Site

/-- The number of steps from the root. -/
def depth (site : Site) : Nat :=
  site.address.length

/-- A site seen from one level higher, where it is below child number `i`. -/
def below (i : Nat) (site : Site) : Site :=
  { site with address := i :: site.address }

end Site

/-- `Uncut closed root address`: no node that is passed on the way from the root to the address is
closed.  The node at the address itself may be. -/
def Uncut (closed : Node → Bool) (root : Node) (address : List Nat) : Prop :=
  ∀ n < address.length, ∀ passed, root.at? (address.take n) = some passed → closed passed = false

section

variable {closed : Node → Bool} {root child : Node} {i : Nat} {address : List Nat}

theorem Node.at?_cons (hchild : root.namedChildren[i]? = some child) (rest : List Nat) :
    root.at? (i :: rest) = child.at? rest := by
  rw [Node.at?, hchild, Option.bind_some]

theorem uncut_nil : Uncut closed root [] :=
  fun _ h => absurd h (Nat.not_lt_zero _)

/-- The way to an address passes the root and then what the way from the child passes. -/
theorem uncut_cons_iff (hchild : root.namedChildren[i]? = some child) :
    Uncut closed root (i :: address) ↔ closed root = false ∧ Uncut closed child address := by
  constructor
  · intro h
    refine ⟨h 0 (Nat.succ_pos _) root rfl, fun n hn passed hpassed => ?_⟩
    refine h (n + 1) (Nat.succ_lt_succ hn) passed ?_
    rw [List.take_succ_cons, Node.at?_cons hchild, hpassed]
  · rintro ⟨hroot, hrest⟩ n hn passed hpassed
    cases n with
    | zero =>
      obtain rfl : root = passed := Option.some.inj hpassed
      exact hroot
    | succ n =>
      rw [List.take_succ_cons, Node.at?_cons hchild] at hpassed
      exact hrest n (Nat.lt_of_succ_lt_succ hn) passed hpassed

end

/-! ### Preorder -/

/-- **Preorder** of the first `levels` levels of a tree: a node, then what is below its named
children, one after the other; nothing is listed below a closed node. -/
def preorder (closed : Node → Bool) : (levels : Nat) → Node → List Site
  | 0, _ => []
  | levels + 1, node =>
    ⟨[], node⟩ ::
      if closed node then []
      else node.namedChildren.zipIdx.flatMap fun (child, i) =>
        (preorder closed levels child).map (Site.below i)

section

variable (closed : Node → Bool)

/-- A site is listed if it is the root, or if the root is open and the site is listed below one of
the children. -/
theorem mem_preorder_succ_iff (levels : Nat) (root : Node) (site : Site) :
    site ∈ preorder closed (levels + 1) root ↔
      site = ⟨[], root⟩ ∨ closed root = false ∧ ∃ child i, root.namedChildren[i]? = some child ∧
        ∃ lower ∈ preorder closed levels child, lower.below i = site := by
  rw [preorder, List.mem_cons]
  refine or_congr_right ?_
  cases closed root with
  | true => simp
  | false =>
    simp only [Bool.false_eq_true, if_false, true_and, List.mem_flatMap, Prod.exists,
      List.mk_mem_zipIdx_iff_getElem?, List.mem_map]

/-- **What is listed**: the sites that are near enough and not cut off. -/
theorem mem_preorder_iff (levels : Nat) (root : Node) (site : Site) :
    site ∈ preorder closed levels root ↔
      root.at? site.address = some site.node ∧ site.depth < levels ∧
        Uncut closed root site.address := by
  induction levels generalizing root site with
  | zero => simp [preorder]
  | succ levels ih =>
    rw [mem_preorder_succ_iff]
    constructor
    · rintro (rfl | ⟨hopen, child, i, hchild, lower, hlower, rfl⟩)
      · exact ⟨rfl, Nat.succ_pos _, uncut_nil⟩
      · obtain ⟨hat, hdepth, huncut⟩ := (ih child lower).mp hlower
        refine ⟨?_, Nat.succ_lt_succ hdepth, (uncut_cons_iff hchild).mpr ⟨hopen, huncut⟩⟩
        exact (Node.at?_cons hchild lower.address).trans hat
    · obtain ⟨address, node⟩ := site
      rintro ⟨hat, hdepth, huncut⟩
      -- the address tells the root from what is below child number `i`
      cases address with
      | nil =>
        obtain rfl : root = node := Option.some.inj hat
        exact Or.inl rfl
      | cons i rest =>
        cases hchild : root.namedChildren[i]? with
        | none =>
          rw [Node.at?, hchild] at hat
          contradiction
        | some child =>
          rw [Node.at?_cons hchild] at hat
          obtain ⟨hopen, hrest⟩ := (uncut_cons_iff hchild).mp huncut
          have hlower : ⟨rest, node⟩ ∈ preorder closed levels child :=
            (ih child ⟨rest, node⟩).mpr ⟨hat, Nat.lt_of_succ_lt_succ hdepth, hrest⟩
          exact Or.inr ⟨hopen, child, i, hchild, ⟨rest, node⟩, hlower, rfl⟩

/-- **In which order**: addresses increase strictly, lexicographically. -/
theorem pairwise_preorder (levels : Nat) (root : Node) :
    (preorder closed levels root).Pairwise fun a b => a.address < b.address := by
  induction levels generalizing root with
  | zero => exact .nil
  | succ levels ih =>
    rw [preorder, List.pairwise_cons]
    split
    · exact ⟨fun _ h => absurd h List.not_mem_nil, .nil⟩
    · constructor
      · -- the root's address is empty, all others are not
        intro site hsite
        obtain ⟨⟨child, i⟩, -, hsite⟩ := List.mem_flatMap.mp hsite
        obtain ⟨site', -, rfl⟩ := List.mem_map.mp hsite
        exact List.nil_lt_cons i site'.address
      · rw [List.pairwise_flatMap]
        constructor
        · -- below one child, the order is that of the child's own list
          rintro ⟨child, i⟩ -
          rw [List.pairwise_map]
          exact (ih child).imp fun h => List.cons_lt_cons_iff.mpr (Or.inr ⟨rfl, h⟩)
        · -- below different children, the numbers of the children decide
          have hnumbers : root.namedChildren.zipIdx.Pairwise fun a b => a.2 < b.2 := by
            rw [← List.pairwise_map, List.zipIdx_map_snd]
            exact List.pairwise_lt_range'
          refine hnumbers.imp fun {a b} hab x hx y hy => ?_
          obtain ⟨x', -, rfl⟩ := List.mem_map.mp hx
          obtain ⟨y', -, rfl⟩ := List.mem_map.mp hy
          exact List.cons_lt_cons_iff.mpr (Or.inl hab)

/-- What is gathered from some of the elements only is gathered from those alone. -/
theorem flatMap_ite {α β : Type} (p : α → Prop) [DecidablePred p] (f : α → List β) (as : List α) :
    as.flatMap (fun a => if p a then f a else []) = (as.filter fun a => p a).flatMap f := by
  induction as with
  | nil => rfl
  | cons a rest ih =>
    rw [List.flatMap_cons, ih, List.filter_cons]
    by_cases ha : p a
    · simp [ha]
    · simp [ha]

/-- **What is gathered** over the list, node by node and with their depths. -/
theorem flatMap_preorder {β : Type} (f : Nat → Node → List β) (levels : Nat) (root : Node) :
    (preorder closed (levels + 1) root).flatMap (fun site => f site.depth site.node) =
      f 0 root ++ (if closed root then [] else root.namedChildren).flatMap fun child =>
        (preorder closed levels child).flatMap fun site => f (site.depth + 1) site.node := by
  rw [preorder, List.flatMap_cons]
  congr 1
  split
  · rfl
  · -- the numbers of the children play no part in what is gathered
    have hnumbers : ∀ g : Node → List β, root.namedChildren.flatMap g
        = root.namedChildren.zipIdx.flatMap fun numbered => g numbered.1 := by
      intro g
      rw [← List.flatMap_map Prod.fst, List.zipIdx_map_fst]
    rw [List.flatMap_assoc, hnumbers]
    refine List.flatMap_congr fun ⟨child, i⟩ _ => ?_
    rw [List.flatMap_map]
    rfl

end

end SuiteLint.Tree
