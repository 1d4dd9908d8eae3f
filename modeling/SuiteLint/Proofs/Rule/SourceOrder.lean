import SuiteLint.Proofs.Report.Order
import SuiteLint.Proofs.Rule.Loosening
import SuiteLint.Proofs.Rule.Statelessness
import SuiteLint.Proofs.Tree.Nesting

/-!
# Rules report in source order

Both rules go down from a node to others that are laid out below it: named children, or for a suite
call the arguments and what is in its callbacks.  A walk of this form lists a node before what is
below it and what is below one node before what is below the next (`walkOrder`), so in a well-nested
tree the nodes come by increasing offsets (`pairwise_start_walkOrder`).

`rules_inSourceOrder`: the diagnostics of either rule follow the nodes that trigger them, have their
offsets and lengths, and are already in the order of a report.
-/

namespace SuiteLint

/-! ### The order of a walk -/

namespace Tree

/-- **Order of a walk** over at most `room` levels that goes on from each node to the `next` ones. -/
def walkOrder (next : Node → List Node) : (room : Nat) → Node → List Node
  | 0, _ => []
  | room + 1, node => node :: (next node).flatMap (walkOrder next room)

section

variable {next : Node → List Node} (hnext : ∀ node, LaidOut node (next node))
include hnext

theorem inside_of_mem_walkOrder {room : Nat} {root node : Node} (hroot : root.WellNested)
    (h : node ∈ walkOrder next room root) :
    node.start ≤ node.stop ∧ root.start ≤ node.start ∧ node.stop ≤ root.stop := by
  induction room generalizing root with
  | zero => exact absurd h List.not_mem_nil
  | succ room ih =>
    rcases List.mem_cons.mp h with rfl | hbelow
    · exact ⟨hroot.range, Nat.le_refl _, Nat.le_refl _⟩
    · obtain ⟨child, hchild, hnode⟩ := List.mem_flatMap.mp hbelow
      have hrange := ih ((hnext root).wellNested hroot hchild) hnode
      have hinside := (hnext root).inside hroot hchild
      omega

/-- **Offsets along a walk** increase. -/
theorem pairwise_start_walkOrder (room : Nat) {root : Node} (hroot : root.WellNested) :
    (walkOrder next room root).Pairwise fun a b => a.start ≤ b.start := by
  induction room generalizing root with
  | zero => exact .nil
  | succ room ih =>
    have hchild : ∀ child ∈ next root, child.WellNested :=
      fun child hmem => (hnext root).wellNested hroot hmem
    refine List.pairwise_cons.mpr ⟨fun node hnode => ?_, ?_⟩
    · have hmem : node ∈ walkOrder next (room + 1) root := List.mem_cons_of_mem _ hnode
      exact (inside_of_mem_walkOrder hnext hroot hmem).2.1
    · refine List.pairwise_flatMap.mpr ⟨fun child hmem => ih (hchild child hmem), ?_⟩
      -- what is below one child ends before the next child starts
      refine ((hnext root).apart hroot).imp_of_mem fun {a b} ha hb hab x hx y hy => ?_
      have hx := inside_of_mem_walkOrder hnext (hchild a ha) hx
      have hy := inside_of_mem_walkOrder hnext (hchild b hb) hy
      omega

end

theorem map_node_preorder (closed : Node → Bool) (levels : Nat) (root : Node) :
    (preorder closed levels root).map Site.node
      = walkOrder (fun node => if closed node then [] else node.namedChildren) levels root := by
  induction levels generalizing root with
  | zero => rfl
  | succ levels ih =>
    rw [List.map_eq_flatMap, flatMap_preorder closed (fun _ node => [node]), walkOrder]
    refine congrArg (root :: ·) (List.flatMap_congr fun child _ => ?_)
    rw [← ih child, List.map_eq_flatMap]

end Tree

/-! ### Diagnostics in order -/

open SuiteLint.Tree (Node LaidOut SyntaxTree walkOrder)

/-- **In source order**: what is found follows the nodes that trigger it. -/
structure InSourceOrder (triggers : List Node) (report : Node → List Diagnostic)
    (found : List Diagnostic) : Prop where
  /-- The diagnostics are what the reports of the triggers yield, one after the other. -/
  traced : found = triggers.flatMap report
  /-- Offset and length of a diagnostic are the start and the width of its trigger. -/
  located : ∀ node ∈ triggers, ∀ d ∈ report node,
    d.location.offset = node.start ∧ d.location.length = node.width
  /-- The offsets do not decrease. -/
  ordered : found.Pairwise fun d e => d.location.offset ≤ e.location.offset
  /-- To sort the diagnostics changes nothing. -/
  sorted_eq : ∀ filesChecked, ({ diagnostics := found, filesChecked } : LintResult).sorted
    = { diagnostics := found, filesChecked }

/-- Diagnostics about one file are sorted if their offsets are. -/
theorem LintResult.sorted_eq_self {r : LintResult} {shown : Path}
    (hfile : ∀ d ∈ r.diagnostics, d.location.file = shown)
    (h : r.diagnostics.Pairwise fun d e => d.location.offset ≤ e.location.offset) :
    r.sorted = r := by
  have hsorted : r.diagnostics.Pairwise fun d e => (d.compare e).isLE = true := by
    refine h.imp_of_mem fun {d e} hd he hle => ?_
    rw [Diagnostic.inOrder_iff]
    refine Or.inr ⟨?_, hle⟩
    rw [hfile d hd, hfile e he]
    exact Std.ReflCmp.compare_self
  rw [sorted, List.mergeSort_of_pairwise hsorted]

/-- Reports that are located at their nodes are in order if the nodes are. -/
theorem InSourceOrder.of_pairwise {file : SourceFile} {triggers : List Node}
    {report : Node → List Diagnostic} {found : List Diagnostic}
    (hreport : ∀ node, ∀ d ∈ report node, d.location = file.locate node.start node.width)
    (htriggers : triggers.Pairwise fun a b => a.start ≤ b.start)
    (hfound : found = triggers.flatMap report) : InSourceOrder triggers report found := by
  have hordered : found.Pairwise fun d e => d.location.offset ≤ e.location.offset := by
    rw [hfound, List.pairwise_flatMap]
    constructor
    · intro node _
      refine List.pairwise_of_forall_mem_list fun d hd e he => ?_
      rw [hreport node d hd, hreport node e he]
    · refine htriggers.imp fun {a b} hab d hd e he => ?_
      rw [hreport a d hd, hreport b e he]
      exact hab
  have hfile : ∀ d ∈ found, d.location.file = file.shown := by
    intro d hd
    obtain ⟨node, -, hd⟩ := List.mem_flatMap.mp (hfound ▸ hd)
    rw [hreport node d hd]
    rfl
  refine ⟨hfound, fun node _ d hd => ?_, hordered, fun n => LintResult.sorted_eq_self hfile hordered⟩
  rw [hreport node d hd]
  exact ⟨rfl, rfl⟩

/-! ### Side-effect code -/

namespace SideEffectCode

open SuiteLint.Tree (ClassifierSettings)

/-- The rule goes on from a node to what is laid out below it. -/
theorem laidOut_steps (node : Node) : LaidOut node (steps node) := by
  have hchildren := LaidOut.namedChildren node
  unfold steps
  split
  · exact hchildren.sublist List.filter_sublist
  · cases hargs : node.field? "arguments" with
    | none => exact .nil node
    | some arguments =>
      dsimp only
      split_ifs
      · refine .through (Node.mem_children_of_field? hargs) ?_
        refine (LaidOut.namedChildren arguments).flatMap fun argument _ => ?_
        -- a callback is passed over in favour of its children
        split_ifs
        · exact .namedChildren argument
        · exact .self argument
      · exact .nil node
  any_goals exact .nil node
  exact hchildren

theorem map_node_placesFrom (room : Nat) (place : Place) :
    (placesFrom room place).map Place.node = walkOrder steps room place.node := by
  induction room generalizing place with
  | zero => rfl
  | succ room ih =>
    rw [placesFrom, walkOrder, List.map_cons, List.map_flatMap]
    exact congrArg (place.node :: ·) (List.flatMap_congr fun child _ => ih _)

/-- **Triggers** of the rule: the reached nodes, each as often as there are suspect parts. -/
def triggers (settings : ClassifierSettings) (root : Node) : List Node :=
  if DeclaresSuite root then
    (reached root).flatMap fun place => (judgedParts settings place).map fun _ => place.node
  else []

theorem pairwise_start_triggers (settings : ClassifierSettings) {root : Node}
    (h : root.WellNested) :
    (triggers settings root).Pairwise fun a b => a.start ≤ b.start := by
  unfold triggers
  split_ifs
  · have hreached : (reached root).Pairwise fun a b => a.node.start ≤ b.node.start := by
      have hwalk := Tree.pairwise_start_walkOrder laidOut_steps 512 h
      rw [← map_node_placesFrom 512 ⟨root, []⟩, List.pairwise_map] at hwalk
      exact hwalk
    refine List.pairwise_flatMap.mpr ⟨fun place _ => ?_, ?_⟩
    · rw [List.pairwise_map]
      exact List.pairwise_of_forall fun _ _ => Nat.le_refl _
    · refine hreached.imp fun hab x hx y hy => ?_
      obtain ⟨_, _, rfl⟩ := List.mem_map.mp hx
      obtain ⟨_, _, rfl⟩ := List.mem_map.mp hy
      exact hab
  · exact .nil

theorem location_of_mem_finding {file : SourceFile} {node : Node} {d : Diagnostic}
    (h : d ∈ finding file node) : d.location = file.locate node.start node.width := by
  unfold finding at h
  dsimp only at h
  split at h
  · rw [List.mem_singleton.mp h]
  · rw [List.mem_singleton.mp h]
  · exact absurd h List.not_mem_nil

theorem apply_eq_flatMap_triggers (settings : ClassifierSettings) (file : SourceFile)
    (tree : SyntaxTree) :
    apply settings file tree = (triggers settings tree.root).flatMap (finding file) := by
  rw [apply_eq_flatMap, triggers]
  by_cases h : DeclaresSuite tree.root
  · rw [if_pos ((isSuiteFile_iff _).mpr h), if_pos h, List.flatMap_assoc]
    refine List.flatMap_congr fun place _ => ?_
    rw [findingsAt, List.flatMap_map]
  · rw [if_neg fun hfile => h ((isSuiteFile_iff _).mp hfile), if_neg h, List.flatMap_nil]

end SideEffectCode

/-! ### Stateless classes -/

namespace StatelessClass

/-- **Triggers** of the rule: the reported classes. -/
def triggers (root : Node) : List Node :=
  (reported root).map Tree.Site.node

theorem pairwise_start_triggers {root : Node} (h : root.WellNested) :
    (triggers root).Pairwise fun a b => a.start ≤ b.start := by
  have hnext : ∀ node : Node,
      LaidOut node (if bodiless node then [] else node.namedChildren) := by
    intro node
    split_ifs
    · exact .nil node
    · exact .namedChildren node
  have hwalk := Tree.pairwise_start_walkOrder hnext 512 h
  rw [← Tree.map_node_preorder] at hwalk
  exact hwalk.sublist (List.filter_sublist.map _)

theorem location_of_mem_finding {file : SourceFile} {cls : Node} {d : Diagnostic}
    (h : d ∈ finding file cls) : d.location = file.locate cls.start cls.width := by
  unfold finding at h
  dsimp only at h
  split_ifs at h
  · exact absurd h List.not_mem_nil
  · rw [List.mem_singleton.mp h]

theorem apply_eq_flatMap_triggers (file : SourceFile) (tree : SyntaxTree) :
    apply file tree = (triggers tree.root).flatMap (finding file) := by
  rw [apply_eq_flatMap, triggers, reported, List.flatMap_map, ← Tree.flatMap_ite]
  rfl

end StatelessClass

/-! ### Both rules -/

/-- **Rules report in source order** on every well-nested tree, in every file and under all
settings. -/
theorem rules_inSourceOrder {tree : SyntaxTree} (h : tree.root.WellNested) (file : SourceFile) :
    (∀ settings, InSourceOrder (SideEffectCode.triggers settings tree.root)
      (SideEffectCode.finding file) (SideEffectCode.apply settings file tree)) ∧
    InSourceOrder (StatelessClass.triggers tree.root)
      (StatelessClass.finding file) (StatelessClass.apply file tree) := by
  refine ⟨fun settings => ?_, ?_⟩
  · exact .of_pairwise (fun _ _ hd => SideEffectCode.location_of_mem_finding hd)
      (SideEffectCode.pairwise_start_triggers settings h)
      (SideEffectCode.apply_eq_flatMap_triggers settings file tree)
  · exact .of_pairwise (fun _ _ hd => StatelessClass.location_of_mem_finding hd)
      (StatelessClass.pairwise_start_triggers h)
      (StatelessClass.apply_eq_flatMap_triggers file tree)

/-! ### A suite and two classes -/

open SideEffectCode (construct loadingSuite)

/-- A class with one member. -/
def classWith (start : Nat) (name : String) (member : Node) : Node :=
  let body := "\x7b" ++ member.text ++ "\x7d"
  construct "class_declaration" none start ("class " ++ name ++ body)
    [construct "type_identifier" (some "name") (start + 6) name [],
     construct "class_body" (some "body") (start + 6 + name.utf8ByteSize) body [member]]

/-- The suite `describe(() => {load();save();})`, and on the next line the class `A` with the class
`B` inside its static method. -/
def suiteWithClasses : SyntaxTree :=
  let inner := classWith 52 "B" (construct "method_definition" none 60 "constructor()\x7b\x7d"
    [construct "property_identifier" (some "name") 60 "constructor" []])
  let body := "\x7b" ++ inner.text ++ "\x7d"
  let outer := classWith 33 "A" (construct "method_definition" none 41 ("static a()" ++ body)
    [{ construct "static" none 41 "static" [] with named := false },
     construct "property_identifier" (some "name") 48 "a" [],
     construct "statement_block" (some "body") 51 body [inner]])
  let source := loadingSuite.source ++ "\n" ++ outer.text
  { loadingSuite with
    source := source
    root := construct "program" none 0 source (loadingSuite.root.children ++ [outer]) }

/-- Each rule has two findings in that file. -/
theorem rules_inSourceOrder_suiteWithClasses :
    let file : SourceFile := { shown := ⟨"suite.test.ts"⟩, content := suiteWithClasses.source }
    suiteWithClasses.root.WellNested ∧
      InSourceOrder (SideEffectCode.triggers {} suiteWithClasses.root)
        (SideEffectCode.finding file) (SideEffectCode.apply {} file suiteWithClasses) ∧
      InSourceOrder (StatelessClass.triggers suiteWithClasses.root)
        (StatelessClass.finding file) (StatelessClass.apply file suiteWithClasses) ∧
      (SideEffectCode.apply {} file suiteWithClasses).map (fun d => d.location.offset) = [16, 23] ∧
      (StatelessClass.apply file suiteWithClasses).map (fun d => d.location.offset) = [33, 52] := by
  intro file
  have hnested : suiteWithClasses.root.WellNested := by decide +kernel
  obtain ⟨hcode, hclass⟩ := rules_inSourceOrder hnested file
  exact ⟨hnested, hcode {}, hclass, by decide +kernel, by decide +kernel⟩

end SuiteLint
