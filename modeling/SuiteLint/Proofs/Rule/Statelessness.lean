import Mathlib.Tactic.SplitIfs
import SuiteLint.Proofs.Tree.Preorder
import SuiteLint.Proofs.Walk.Effect
import SuiteLint.Rule.StatelessClass

/-!
# Which classes the rule on stateless classes reports

A class is `Stateless` if it has no heritage, and its body has members of which none gives instances
any state (`IsIdle`): constructors that declare no properties, and static members.

The rule looks for such classes in the whole tree of named children, down to 511 steps from the
root, classes in functions and in other classes included.  The one thing that it cannot look into is
a class without a body (`bodiless`), at which its handler fails.  `apply_eq_statelessFindings`: the
rule reports the stateless classes that are reached, each of them once and in preorder, and a report
yields its diagnostic unless a directive allows it.
-/

namespace SuiteLint.StatelessClass

open SuiteLint.Tree (Node Kind Site SyntaxTree Uncut preorder)
open SuiteLint.Walk (Context Plan Visitor)

/-! ### Stateless classes -/

/-- **Constructor**: a method of that name, with or without a body. -/
def IsConstructor (member : Node) : Prop :=
  (member.kind = .methodDefinition ∨ member.kind = .methodSignature) ∧
    ∃ name, member.field? "name" = some name ∧ name.text = "constructor"

/-- **Parameter property**: a parameter that a modifier turns into a property of the instances. -/
def DeclaresProperty (parameter : Node) : Prop :=
  (parameter.kind = .requiredParameter ∨ parameter.kind = .optionalParameter) ∧
    ((∃ child ∈ parameter.namedChildren, child.kind = .accessibilityModifier) ∨
      (∃ child ∈ parameter.namedChildren, child.kind = .overrideModifier) ∨
      parameter.hasToken "readonly" = true)

/-- **Idle member**: a constructor without parameter properties, or anything else that is static. -/
def IsIdle (member : Node) : Prop :=
  (IsConstructor member ∧ ∀ parameters, member.field? "parameters" = some parameters →
      ∀ parameter ∈ parameters.namedChildren, ¬ DeclaresProperty parameter) ∨
    (¬ IsConstructor member ∧ member.hasToken "static" = true)

/-- `HasIdleMembers body`: there are members in the body of a class, and all of them are idle. -/
def HasIdleMembers (body : Node) : Prop :=
  (∃ member ∈ body.namedChildren, member.kind.isClassMember = true) ∧
    ∀ member ∈ body.namedChildren, member.kind.isClassMember = true → IsIdle member

/-- **Stateless class**. -/
structure Stateless (cls : Node) : Prop where
  /-- It is a class. -/
  kind : cls.kind = .classDeclaration ∨ cls.kind = .classExpression
  /-- It neither extends nor implements anything. -/
  heritage : ∀ child ∈ cls.namedChildren, child.kind ≠ .classHeritage
  /-- It has a body, with members that are all idle. -/
  members : ∃ body, cls.field? "body" = some body ∧ HasIdleMembers body

theorem isConstructor_iff (member : Node) :
    isConstructor member = true ↔ IsConstructor member := by
  unfold isConstructor IsConstructor
  simp [Option.any_eq_true]

theorem declaresProperty_iff (parameter : Node) :
    declaresProperty parameter = true ↔ DeclaresProperty parameter := by
  unfold declaresProperty DeclaresProperty Node.childOfKind?
  simp [or_assoc]

theorem declaresProperties_eq_false_iff (constructor : Node) :
    declaresProperties constructor = false ↔
      ∀ parameters, constructor.field? "parameters" = some parameters →
        ∀ parameter ∈ parameters.namedChildren, ¬ DeclaresProperty parameter := by
  unfold declaresProperties
  simp only [← declaresProperty_iff]
  cases constructor.field? "parameters" with
  | none => simp
  | some parameters => simp

theorem isIdleMember_iff (member : Node) : isIdleMember member = true ↔ IsIdle member := by
  unfold isIdleMember IsIdle
  rw [← isConstructor_iff, ← declaresProperties_eq_false_iff]
  cases isConstructor member <;> simp

theorem isStateless_iff (cls body : Node) :
    isStateless cls body = true ↔
      (∀ child ∈ cls.namedChildren, child.kind ≠ .classHeritage) ∧ HasIdleMembers body := by
  have hheritage : (cls.childOfKind? .classHeritage).isNone = true ↔
      ∀ child ∈ cls.namedChildren, child.kind ≠ .classHeritage := by
    unfold Node.childOfKind?
    simp
  -- the members are those children of the body that pass the filter
  have hmembers : HasIdleMembers body ↔
      (!(body.namedChildren.filter fun m => m.kind.isClassMember).isEmpty) = true ∧
        (body.namedChildren.filter fun m => m.kind.isClassMember).all isIdleMember = true := by
    unfold HasIdleMembers
    simp only [← isIdleMember_iff, List.all_eq_true, List.mem_filter, and_imp]
    refine and_congr_left fun _ => ?_
    simp
  unfold isStateless
  rw [Bool.and_eq_true, Bool.and_eq_true, hheritage, hmembers, and_assoc]

theorem stateless_iff (cls : Node) :
    Stateless cls ↔ cls.kind.isClass = true ∧
      (cls.field? "body").any (fun body => isStateless cls body) = true := by
  have hkind : cls.kind.isClass = true ↔
      cls.kind = .classDeclaration ∨ cls.kind = .classExpression := by
    unfold Kind.isClass
    split <;> simp_all
  simp only [Option.any_eq_true, isStateless_iff, hkind]
  constructor
  · rintro ⟨hclass, hheritage, body, hbody, hmembers⟩
    exact ⟨hclass, body, hbody, hheritage, hmembers⟩
  · rintro ⟨hclass, body, hbody, hheritage, hmembers⟩
    exact ⟨hclass, hheritage, body, hbody, hmembers⟩

instance (cls : Node) : Decidable (Stateless cls) :=
  decidable_of_iff _ (stateless_iff cls).symm

/-! ### Findings -/

/-- **Bodiless class**: a class at which the handler of the rule fails. -/
def bodiless (node : Node) : Bool :=
  node.kind.isClass && (node.field? "body").isNone

/-- **Reported classes**: the stateless ones among the nodes at most 511 steps from the root that
are not below a bodiless class, in preorder. -/
def reported (root : Node) : List Site :=
  (preorder bodiless 512 root).filter fun site => Stateless site.node

/-- **What one report yields**: one diagnostic, unless a directive allows it. -/
def finding (file : SourceFile) (cls : Node) : List Diagnostic :=
  let location := file.locate cls.start cls.width
  if (Allowance.check file.content location.line "no-stateless-class").isAllowed then []
  else
    [{ code := "TL002", rule := "no-stateless-class", severity := .warning, location := location
       message := "A stateless class was found. This indicates a failure in the object model: "
         ++ ((cls.field? "name").map Node.text).getD "<anonymous>"
       suggestion := some "Use plain functions or a module instead of a class" }]

/-- The findings at a node. -/
def findingsAt (file : SourceFile) (node : Node) : List Diagnostic :=
  if Stateless node then finding file node else []

theorem findingsAt_eq (file : SourceFile) (node : Node) :
    findingsAt file node =
      if node.kind.isClass && (node.field? "body").any (fun body => isStateless node body) then
        finding file node
      else [] := by
  unfold findingsAt
  simp only [stateless_iff, Bool.and_eq_true]

/-- As the rule's findings are warnings, a directive need not give a reason. -/
theorem outcome_start (file : SourceFile) (cls : Node) :
    (start file).reporter.outcome cls (messageFor cls) = finding file cls := by
  unfold Reporter.outcome finding
  dsimp only [start, name]
  split <;> rename_i hcheck
  · rw [hcheck]
    rfl
  · rw [hcheck]
    rfl

/-! ### One node -/

/-- A context that reports on the file for this rule. -/
def Ready (file : SourceFile) (cx : Context Unit) : Prop :=
  ∃ ds, cx.reporter = (start file).reporter.adding ds

theorem Ready.walked {file : SourceFile} {cx after : Context Unit} {ds : List Diagnostic}
    (h : Ready file cx) (hreporter : after.reporter = cx.reporter.adding ds) :
    Ready file after := by
  obtain ⟨ds', hds'⟩ := h
  exact ⟨ds' ++ ds, by rw [hreporter, hds', Reporter.adding_adding]⟩

theorem visitor_handle (node : Node) :
    visitor.handle node
      = if node.kind.isClass then classPlan node else Plan.visitChildren node := by
  unfold Visitor.handle Kind.isClass
  split <;> simp_all <;> rfl

/-- **A class with a body**: it is reported if it is stateless, and its children are walked. -/
theorem run_classPlan {file : SourceFile} {cx : Context Unit} (h : Ready file cx)
    (walk : Node → Context Unit → Context Unit) {cls body : Node}
    (hbody : cls.field? "body" = some body) :
    (classPlan cls).run walk cx = (.ok (), Walk.walkAll walk cls.namedChildren
      { cx with reporter :=
          cx.reporter.adding (if isStateless cls body then finding file cls else []) }) := by
  unfold classPlan Walk.requireField
  rw [hbody]
  show (if isStateless cls body then .report cls (messageFor cls) (Plan.visitChildren cls)
    else Plan.visitChildren cls : Plan Unit Unit).run walk cx = _
  split_ifs
  · obtain ⟨ds, hds⟩ := h
    rw [Plan.run, Plan.run_visitChildren, Reporter.reportMessage_eq_adding, hds,
      Reporter.outcome_adding, outcome_start]
  · rw [Plan.run_visitChildren, Reporter.adding_nil]

/-- **Any node**: the handler reports it if it is a stateless class, and walks its children unless
it is a bodiless one. -/
theorem run_handle {file : SourceFile} {cx : Context Unit} (h : Ready file cx)
    (walk : Node → Context Unit → Context Unit) (node : Node) :
    ((visitor.handle node).run walk cx).2
      = Walk.walkAll walk (if bodiless node then [] else node.namedChildren)
          { cx with reporter := cx.reporter.adding (findingsAt file node) } := by
  rw [visitor_handle, bodiless, findingsAt_eq]
  cases node.kind.isClass with
  | false =>
    show ((Plan.visitChildren node).run walk cx).2 = Walk.walkAll walk node.namedChildren
      { cx with reporter := cx.reporter.adding [] }
    rw [Plan.run_visitChildren, Reporter.adding_nil]
  | true =>
    cases hbody : node.field? "body" with
    | none =>
      -- the handler fails before it has done anything
      show ((classPlan node).run walk cx).2 = { cx with reporter := cx.reporter.adding [] }
      rw [classPlan, Walk.requireField, hbody, Reporter.adding_nil]
      rfl
    | some body =>
      show ((classPlan node).run walk cx).2 = _
      rw [run_classPlan h walk hbody]
      rfl

/-! ### The whole walk -/

/-- **Walking a node** adds the findings at the nodes that are reached from there. -/
theorem visit_reporter {file : SourceFile} (room : Nat) (node : Node) {cx : Context Unit}
    (h : Ready file cx) :
    (Walk.visit visitor room node cx).reporter = cx.reporter.adding
      ((preorder bodiless room node).flatMap fun site => findingsAt file site.node) := by
  induction room generalizing node cx with
  | zero => exact (Reporter.adding_nil _).symm
  | succ room ih =>
    have hentered : Ready file cx.entered := h
    rw [Walk.visit_succ, Context.settle_reporter, run_handle hentered,
      Walk.walkAll_reporter (fun child _ cx' hcx' => hcx'.walked (ih child hcx'))
        (fun child _ cx' hcx' => ih child hcx') (hentered.walked rfl),
      Reporter.adding_adding,
      Tree.flatMap_preorder bodiless (fun _ node => findingsAt file node)]
    rfl

/-- The findings of a run are those at the nodes that are reached from the root. -/
theorem apply_eq_flatMap (file : SourceFile) (tree : SyntaxTree) :
    apply file tree
      = (preorder bodiless 512 tree.root).flatMap fun site => findingsAt file site.node := by
  have hstart : Ready file (start file) := ⟨[], (Reporter.adding_nil _).symm⟩
  have hwalk := visit_reporter 512 tree.root hstart
  show (Walk.visit visitor 512 tree.root (start file)).reporter.diagnostics = _
  rw [hwalk]
  exact List.nil_append _

/-- **What the rule reports** in any file.  The diagnostics are those of the reported classes, which
are exactly the stateless classes at most 511 steps from the root that are not below a bodiless
class, in strict lexicographic order of their addresses. -/
theorem apply_eq_statelessFindings (file : SourceFile) (tree : SyntaxTree) :
    apply file tree = (reported tree.root).flatMap (fun site => finding file site.node) ∧
      (∀ site, site ∈ reported tree.root ↔
        tree.root.at? site.address = some site.node ∧ site.depth ≤ 511 ∧
          Uncut bodiless tree.root site.address ∧ Stateless site.node) ∧
      (reported tree.root).Pairwise fun a b => a.address < b.address := by
  refine ⟨?_, fun site => ?_, (Tree.pairwise_preorder bodiless 512 tree.root).filter _⟩
  · rw [apply_eq_flatMap, reported, ← Tree.flatMap_ite]
    rfl
  · rw [reported, List.mem_filter, Tree.mem_preorder_iff, Nat.lt_succ_iff, decide_eq_true_iff,
      and_assoc, and_assoc]

end SuiteLint.StatelessClass
