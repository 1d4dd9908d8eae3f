import SuiteLint.Proofs.Outcome.Success
import SuiteLint.Proofs.Walk.Effect
import SuiteLint.Rule.Catalog

/-!
# Where findings are located

A report is located in the file that its reporter holds, and no step of a walk changes that file.
So whatever a visitor does, all that its walk reports is about one file (`visit_reportsOn`), and so
is all that a rule of the catalogue finds (`Rule.Located`, `located_of_rulesFor`).
-/

namespace SuiteLint

open SuiteLint.Tree (Node SyntaxTree)

/-- Reports are located in the file of the reporter. -/
theorem Reporter.file_of_mem_outcome {r : Reporter} {node : Node} {message : String}
    {d : Diagnostic} (h : d ∈ r.outcome node message) : d.location.file = r.file.shown := by
  unfold outcome at h
  dsimp only at h
  split at h
  · obtain rfl := List.mem_singleton.mp h
    rfl
  · split at h
    · obtain rfl := List.mem_singleton.mp h
      rfl
    · exact absurd h List.not_mem_nil

/-! ### Walks -/

namespace Walk

variable {σ α : Type}

/-- **Reporting on one file**: the reports made so far and those to come are about it. -/
structure ReportsOn (shown : Path) (cx : Context σ) : Prop where
  /-- The file of the reporter. -/
  file : cx.reporter.file.shown = shown
  /-- The files of the reports. -/
  reports : ∀ d ∈ cx.reporter.diagnostics, d.location.file = shown

theorem ReportsOn.report {shown : Path} {cx : Context σ} (h : ReportsOn shown cx) (node : Node)
    (message : String) :
    ReportsOn shown { cx with reporter := cx.reporter.reportMessage node message } := by
  refine ⟨h.file, fun d hd => ?_⟩
  rcases List.mem_append.mp hd with hd | hd
  · exact h.reports d hd
  · rw [Reporter.file_of_mem_outcome hd, h.file]

/-- If walking nodes keeps the reports on one file, so does a plan. -/
theorem Plan.run_reportsOn {shown : Path} {walk : Node → Context σ → Context σ}
    (hwalk : ∀ node cx, ReportsOn shown cx → ReportsOn shown (walk node cx)) (p : Plan σ α)
    {cx : Context σ} (h : ReportsOn shown cx) : ReportsOn shown (p.run walk cx).2 := by
  induction p generalizing cx with
  | done | fail => exact h
  | enter name next ih => exact ih _ ⟨h.file, h.reports⟩
  | isActive name next ih => exact ih _ h
  | leave token next ih | restore target next ih => exact ih ⟨h.file, h.reports⟩
  | suggest text next ih => exact ih ⟨h.file, h.reports⟩
  | scopeDepth next ih | faultCount next ih | inspect next ih => exact ih _ h
  | report node message next ih => exact ih (h.report node message)
  | visit node next ih => exact ih (hwalk node cx h)
  | remember memory next ih => exact ih ⟨h.file, h.reports⟩

/-- **Walking a node keeps the reports on one file**, for every visitor. -/
theorem visit_reportsOn {shown : Path} (v : Visitor σ) (room : Nat) (node : Node)
    {cx : Context σ} (h : ReportsOn shown cx) : ReportsOn shown (visit v room node cx) := by
  induction room generalizing node cx with
  | zero => exact ⟨h.file, h.reports⟩
  | succ room ih =>
    -- the boundary around a node touches depth, faults and scopes, but not the reporter
    have hrun : ReportsOn shown ((v.handle node).run (visit v room) cx.entered).2 :=
      Plan.run_reportsOn (fun node _ => ih node) _ ⟨h.file, h.reports⟩
    rw [visit_succ]
    constructor
    · rw [Context.settle_reporter]
      exact hrun.file
    · rw [Context.settle_reporter]
      exact hrun.reports

end Walk

/-! ### Rules -/

/-- **Located rule**: all it finds is about the file it looks at. -/
def Rule.Located (rule : Rule) : Prop :=
  ∀ file tree, ∀ d ∈ rule.apply file tree, d.location.file = file.shown

theorem SideEffectCode.located_rule (settings : Tree.ClassifierSettings) :
    (SideEffectCode.rule settings).Located := by
  intro file tree d hd
  replace hd : d ∈ SideEffectCode.apply settings file tree := hd
  unfold SideEffectCode.apply at hd
  split at hd
  · have hstart : Walk.ReportsOn file.shown (start file) := ⟨rfl, nofun⟩
    exact (Walk.visit_reportsOn _ _ tree.root hstart).reports d hd
  · exact absurd hd List.not_mem_nil

theorem StatelessClass.located_rule : StatelessClass.rule.Located := by
  intro file tree d hd
  have hstart : Walk.ReportsOn file.shown (start file) := ⟨rfl, nofun⟩
  exact (Walk.visit_reportsOn _ _ tree.root hstart).reports d hd

namespace Catalog

variable {compile : Regex.Compiler}

theorem located_of_build {nameOrCode : String} {options : RuleOptions} {rule : Rule}
    (h : build nameOrCode options compile = .ok rule) : rule.Located := by
  unfold build at h
  split at h
  · obtain ⟨settings, -, rfl⟩ := map_eq_ok_iff.mp h
    exact SideEffectCode.located_rule settings
  · split at h
    · obtain rfl := Except.ok.inj h
      exact StatelessClass.located_rule
    · contradiction

/-- **The rules for a run are located**, however they are chosen and set up. -/
theorem located_of_rulesFor {config : Config} {only : List String} {rules : List Rule}
    (h : rulesFor config only compile = .ok rules) : ∀ rule ∈ rules, rule.Located := by
  obtain ⟨names, -, h⟩ := bind_eq_ok_iff.mp h
  obtain ⟨built, hbuilt, h⟩ := bind_eq_ok_iff.mp h
  obtain rfl := Except.ok.inj h
  intro rule hrule
  have hok : Except.ok rule ∈ names.map (configured compile config) := by
    rw [← mapM_eq_ok_iff.mp hbuilt]
    exact List.mem_map_of_mem (List.mem_filter.mp hrule).1
  obtain ⟨name, -, hname⟩ := List.mem_map.mp hok
  exact located_of_build hname

end Catalog

end SuiteLint
