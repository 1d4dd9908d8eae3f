import SuiteLint.Proofs.Analysis.FileOrder
import SuiteLint.Proofs.Rule.Statelessness

/-!
# Stating the severity that a rule has anyway

A severity in the configuration is meant to replace the rule's own.  To write down the one that the
rule has by default should therefore change nothing.  But the analyzer replaces the severity of all
that a rule returns, and that includes the warning about a directive without a reason, which has a
severity of its own.

* `analyzeSource_eq_iff_forall_severity`: for any rules, nothing changes iff all that the rule finds
  has its severity already;
* `analyzeSource_setSeverity_iff`: for the rules of the catalogue this is so iff no directive allows
  a finding of error severity without the reason it has to give (`Unexplained`);
* `statedSeverity_raises_warning`: such a directive makes the difference between a warning and an
  error.
-/

namespace SuiteLint

open SuiteLint.Tree (Dialect SyntaxTree Node ClassifierSettings)

/-! ### Stating a severity -/

namespace Config

/-- **Stating a severity**: the configuration with a severity for one rule, all else as it was. -/
def setSeverity (config : Config) (name : String) (severity : Severity) : Config :=
  { config with
    rules := (name, { (config.rule? name).getD {} with severity := some severity }) ::
      config.rules.filter (fun entry => entry.1 != name) }

variable (config : Config) (name : String) (severity : Severity)

theorem rule?_setSeverity_self :
    (config.setSeverity name severity).rule? name
      = some { (config.rule? name).getD {} with severity := some severity } :=
  List.lookup_cons_self

theorem rule?_setSeverity_of_ne {other : String} (h : other ≠ name) :
    (config.setSeverity name severity).rule? other = config.rule? other := by
  unfold rule? setSeverity
  rw [List.lookup_cons, beq_false_of_ne h]
  dsimp only
  induction config.rules with
  | nil => rfl
  | cons entry rest ih =>
    by_cases hname : entry.1 = name
    · -- the entry that is dropped is not the one looked for
      have hother : (other == entry.1) = false := beq_false_of_ne (hname ▸ h)
      rw [List.filter_cons_of_neg (by simpa using hname), ih, List.lookup_cons, hother]
    · rw [List.filter_cons_of_pos (by simpa using hname), List.lookup_cons, List.lookup_cons, ih]

theorem severity?_setSeverity (other : String) :
    (config.setSeverity name severity).severity? other
      = if other = name then some severity else config.severity? other := by
  unfold severity?
  split_ifs with h
  · rw [h, rule?_setSeverity_self]
    rfl
  · rw [rule?_setSeverity_of_ne config name severity h]

theorem isEnabled_setSeverity (other : String) (otherwise : Bool) :
    (config.setSeverity name severity).isEnabled other otherwise
      = config.isEnabled other otherwise := by
  unfold isEnabled
  by_cases h : other = name
  · rw [h, rule?_setSeverity_self]
    cases config.rule? name <;> rfl
  · rw [rule?_setSeverity_of_ne config name severity h]

end Config

/-! ### What one rule then finds -/

namespace Analyzer

/-- The analyzer with a severity stated for one rule. -/
def statingSeverity (analyzer : Analyzer) (name : String) (severity : Severity) : Analyzer :=
  { analyzer with config := analyzer.config.setSeverity name severity }

/-- `Runs analyzer rule`: the rule is registered and not switched off. -/
def Runs (analyzer : Analyzer) (rule : Rule) : Prop :=
  rule ∈ analyzer.rules ∧
    analyzer.config.isEnabled rule.metadata.name rule.metadata.enabledByDefault = true

/-- `Refuses analyzer tree`: the tree has syntax errors, and that is a failure. -/
def Refuses (analyzer : Analyzer) (tree : SyntaxTree) : Prop :=
  tree.hasErrors = true ∧ analyzer.failOnParseError = true

section

variable {analyzer : Analyzer} {parse : Parser} {path : Path} {content : String}

theorem analyzeSource_of_refuses (h : analyzer.Refuses (parse (Dialect.ofPath path) content)) :
    analyzer.analyzeSource parse path content = .error (.syntaxErrors path) := by
  unfold analyzeSource
  dsimp only
  rw [if_pos (Bool.and_eq_true_iff.mpr h)]

theorem analyzeSource_of_not_refuses
    (h : ¬ analyzer.Refuses (parse (Dialect.ofPath path) content)) :
    analyzer.analyzeSource parse path content = .ok (analyzer.findingsIn parse path content) := by
  unfold analyzeSource
  dsimp only
  rw [if_neg fun hboth => h (Bool.and_eq_true_iff.mp hboth)]
  rfl

end

theorem length_withSeverity (severity : Option Severity) (found : List Diagnostic) :
    (withSeverity severity found).length = found.length := by
  cases severity with
  | none => rfl
  | some _ => exact List.length_map _

theorem withSeverity_eq_self_iff (severity : Severity) (found : List Diagnostic) :
    withSeverity (some severity) found = found ↔ ∀ d ∈ found, d.severity = severity := by
  have hself : ∀ d : Diagnostic, { d with severity := severity } = d ↔ d.severity = severity :=
    fun d => ⟨fun h => (congrArg Diagnostic.severity h).symm, fun h => h ▸ rfl⟩
  induction found with
  | nil => simp [withSeverity]
  | cons d rest ih =>
    rw [List.forall_mem_cons, ← hself]
    exact List.cons_eq_cons.trans (and_congr_right fun _ => ih)

section

variable {analyzer : Analyzer} {name : String} {severity : Severity} {file : SourceFile}
  {tree : SyntaxTree}

theorem length_applyRule_statingSeverity (rule : Rule) :
    ((analyzer.statingSeverity name severity).applyRule file tree rule).length
      = (analyzer.applyRule file tree rule).length := by
  unfold applyRule statingSeverity
  dsimp only
  rw [Config.isEnabled_setSeverity]
  split_ifs
  · rw [length_withSeverity, length_withSeverity]
  · rfl

/-- Only a rule of that name can be affected, if it runs at all. -/
theorem applyRule_statingSeverity_eq_iff (hunset : analyzer.config.severity? name = none)
    {rule : Rule} (hrule : rule ∈ analyzer.rules) :
    (analyzer.statingSeverity name severity).applyRule file tree rule
        = analyzer.applyRule file tree rule ↔
      (analyzer.Runs rule → rule.metadata.name = name →
        ∀ d ∈ rule.apply file tree, d.severity = severity) := by
  unfold applyRule statingSeverity Runs
  dsimp only
  rw [Config.isEnabled_setSeverity, Config.severity?_setSeverity]
  by_cases henabled :
      analyzer.config.isEnabled rule.metadata.name rule.metadata.enabledByDefault = true
  · rw [if_pos henabled, if_pos henabled]
    by_cases hname : rule.metadata.name = name
    · rw [if_pos hname, hname, hunset]
      simp only [hrule, ← hname, henabled, and_self, true_imp_iff]
      exact withSeverity_eq_self_iff severity _
    · simp [hname]
  · simp [henabled]

end

/-- Lists put together from pieces of equal lengths are equal iff the pieces are. -/
theorem flatMap_eq_flatMap_iff {α β : Type} {as : List α} {f g : α → List β}
    (h : ∀ a, (f a).length = (g a).length) :
    as.flatMap f = as.flatMap g ↔ ∀ a ∈ as, f a = g a := by
  refine ⟨fun heq => ?_, List.flatMap_congr⟩
  induction as with
  | nil => simp
  | cons a rest ih =>
    rw [List.flatMap_cons, List.flatMap_cons] at heq
    obtain ⟨hhead, htail⟩ := List.append_inj heq (h a)
    exact List.forall_mem_cons.mpr ⟨hhead, ih htail⟩

/-- **Stating a severity changes nothing** iff all that the rules of that name find has it
already. -/
theorem analyzeSource_eq_iff_forall_severity {analyzer : Analyzer} {name : String}
    (hunset : analyzer.config.severity? name = none) (severity : Severity) (parse : Parser)
    (path : Path) (content : String) :
    (analyzer.statingSeverity name severity).analyzeSource parse path content
        = analyzer.analyzeSource parse path content ↔
      analyzer.Refuses (parse (Dialect.ofPath path) content) ∨
        ∀ rule, analyzer.Runs rule → rule.metadata.name = name →
          ∀ d ∈ rule.apply (SourceFile.under analyzer.root path content)
            (parse (Dialect.ofPath path) content), d.severity = severity := by
  by_cases hrefuses : analyzer.Refuses (parse (Dialect.ofPath path) content)
  · have hstating : (analyzer.statingSeverity name severity).Refuses _ := hrefuses
    rw [analyzeSource_of_refuses hrefuses, analyzeSource_of_refuses hstating]
    exact iff_of_true rfl (Or.inl hrefuses)
  · have hstating : ¬ (analyzer.statingSeverity name severity).Refuses _ := hrefuses
    rw [analyzeSource_of_not_refuses hrefuses, analyzeSource_of_not_refuses hstating,
      or_iff_right hrefuses, Except.ok.injEq]
    -- no rule finds more or less than before, so the findings can be compared rule by rule
    refine (flatMap_eq_flatMap_iff length_applyRule_statingSeverity).trans ?_
    constructor
    · intro heach rule hruns
      exact (applyRule_statingSeverity_eq_iff hunset hruns.1).mp (heach rule hruns.1) hruns
    · intro hall rule hrule
      exact (applyRule_statingSeverity_eq_iff hunset hrule).mpr (hall rule)

end Analyzer

/-! ### The rules of the catalogue -/

namespace SideEffectCode

/-- **Unexplained directive**: a directive that gives no reason allows a finding of the rule. -/
def Unexplained (settings : ClassifierSettings) (file : SourceFile) (root : Node) : Prop :=
  DeclaresSuite root ∧ ∃ place ∈ reached root, judgedParts settings place ≠ [] ∧
    Allowance.check file.content (file.locate place.node.start place.node.width).line name
      = .allowed none

theorem forall_mem_finding_iff (file : SourceFile) (node : Node) :
    (∀ d ∈ finding file node, d.severity = .error) ↔
      Allowance.check file.content (file.locate node.start node.width).line name
        ≠ .allowed none := by
  unfold finding
  dsimp only [name]
  split <;> simp_all

theorem forall_mem_findingsAt_iff (settings : ClassifierSettings) (file : SourceFile)
    (place : Place) :
    (∀ d ∈ findingsAt settings file place, d.severity = .error) ↔
      (judgedParts settings place ≠ [] →
        Allowance.check file.content (file.locate place.node.start place.node.width).line name
          ≠ .allowed none) := by
  rw [← forall_mem_finding_iff]
  unfold findingsAt
  constructor
  · intro h hparts d hd
    obtain ⟨part, hpart⟩ := List.exists_mem_of_ne_nil _ hparts
    exact h d (List.mem_flatMap.mpr ⟨part, hpart, hd⟩)
  · intro h d hd
    obtain ⟨part, hpart, hd⟩ := List.mem_flatMap.mp hd
    exact h (List.ne_nil_of_mem hpart) d hd

/-- All findings are errors iff every directive that allows one gives a reason. -/
theorem forall_severity_iff (settings : ClassifierSettings) (file : SourceFile)
    (tree : SyntaxTree) :
    (∀ d ∈ apply settings file tree, d.severity = .error) ↔
      ¬ Unexplained settings file tree.root := by
  rw [apply_eq_flatMap, Unexplained, ← isSuiteFile_iff]
  cases isSuiteFile tree.root with
  | false => simp
  | true =>
    simp only [if_true, List.mem_flatMap, forall_exists_index, and_imp, true_and, not_exists,
      not_and]
    rw [forall_comm]
    refine forall_congr' fun place => ?_
    rw [← forall_mem_findingsAt_iff, forall_comm]

end SideEffectCode

namespace StatelessClass

/-- The findings are warnings, for which no reason has to be given. -/
theorem severity_of_mem_apply {file : SourceFile} {tree : SyntaxTree} {d : Diagnostic}
    (h : d ∈ apply file tree) : d.severity = .warning := by
  rw [apply_eq_flatMap] at h
  obtain ⟨site, -, hd⟩ := List.mem_flatMap.mp h
  unfold findingsAt finding at hd
  dsimp only at hd
  split_ifs at hd
  · exact absurd hd List.not_mem_nil
  · rw [List.mem_singleton.mp hd]
  · exact absurd hd List.not_mem_nil

end StatelessClass

/-- **Rule of the catalogue**, set up in any way. -/
inductive Catalog.Offers : Rule → Prop where
  /-- The one on side-effect code. -/
  | sideEffectCode (settings : ClassifierSettings) : Offers (SideEffectCode.rule settings)
  /-- The one on stateless classes. -/
  | statelessClass : Offers StatelessClass.rule

namespace Analyzer

open SideEffectCode (Unexplained)

/-- **When to state the default severity of a rule is to change nothing**.  For any rule without a
configured severity this is so iff the text is refused or all that is found under the name of the
rule has that severity.  With the rules of the catalogue it is so iff the text is refused, or the
rule is not the one on side-effect code, or no directive without a reason allows a finding of
it. -/
theorem analyzeSource_setSeverity_iff {analyzer : Analyzer} {rule : Rule}
    (hrule : rule ∈ analyzer.rules)
    (hunset : analyzer.config.severity? rule.metadata.name = none) (parse : Parser) (path : Path)
    (content : String) :
    let m := rule.metadata
    let file := SourceFile.under analyzer.root path content
    let tree := parse (Dialect.ofPath path) content
    ((analyzer.statingSeverity m.name m.severity).analyzeSource parse path content
        = analyzer.analyzeSource parse path content ↔
      analyzer.Refuses tree ∨ ∀ other, analyzer.Runs other → other.metadata.name = m.name →
        ∀ d ∈ other.apply file tree, d.severity = m.severity) ∧
    ((∀ other ∈ analyzer.rules, Catalog.Offers other) →
      ((analyzer.statingSeverity m.name m.severity).analyzeSource parse path content
          = analyzer.analyzeSource parse path content ↔
        analyzer.Refuses tree ∨ (m.name = SideEffectCode.name →
          ∀ settings, analyzer.Runs (SideEffectCode.rule settings) →
            ¬ Unexplained settings file tree.root))) := by
  intro m file tree
  have hgeneral := analyzeSource_eq_iff_forall_severity hunset m.severity parse path content
  refine ⟨hgeneral, fun hoffers => hgeneral.trans (or_congr_right ?_)⟩
  -- rules of one name are set up from one rule of the catalogue, so they share its severity
  have hne : StatelessClass.name ≠ SideEffectCode.name := by decide
  cases hoffers rule hrule with
  | sideEffectCode =>
    constructor
    · intro h _ settings hruns
      exact (SideEffectCode.forall_severity_iff settings file tree).mp (h _ hruns rfl)
    · intro h other hruns hname
      cases hoffers other hruns.1 with
      | sideEffectCode settings =>
        exact (SideEffectCode.forall_severity_iff settings file tree).mpr (h rfl settings hruns)
      | statelessClass => exact absurd hname hne
  | statelessClass =>
    refine iff_of_true ?_ fun hname => absurd hname hne
    intro other hruns hname
    cases hoffers other hruns.1 with
    | sideEffectCode => exact absurd hname.symm hne
    | statelessClass => exact fun d hd => StatelessClass.severity_of_mem_apply hd

/-! ### A suite with a directive -/

open SideEffectCode (construct)

/-- The suite `describe('suite', () => {...})` with the declaration `const x = load();` on its
second line, and a comment after it. -/
def commentedSuite (comment : String) : SyntaxTree :=
  let body := "\x7b\n    const x = load(); " ++ comment ++ "\n\x7d"
  let callback := "() => " ++ body
  let call := "describe('suite', " ++ callback ++ ")"
  { source := call ++ ";\n", hasErrors := false, dialect := .typescript
    root := construct "program" none 0 (call ++ ";\n")
      [construct "expression_statement" none 0 (call ++ ";")
        [construct "call_expression" none 0 call
          [construct "identifier" (some "function") 0 "describe" [],
           construct "arguments" (some "arguments") 8 ("('suite', " ++ callback ++ ")")
            [construct "string" none 9 "'suite'" [construct "string_fragment" none 10 "suite" []],
             construct "arrow_function" none 18 callback
              [construct "formal_parameters" (some "parameters") 18 "()" [],
               construct "statement_block" (some "body") 24 body
                [construct "lexical_declaration" none 30 "const x = load();"
                  [construct "variable_declarator" none 36 "x = load()"
                    [construct "identifier" (some "name") 36 "x" [],
                     construct "call_expression" (some "value") 40 "load()"
                      [construct "identifier" (some "function") 40 "load" [],
                       construct "arguments" (some "arguments") 44 "()" []]]],
                 construct "comment" none 48 comment []]]]]]] }

theorem offers_of_mem_suiteAnalyzer :
    ∀ rule ∈ suiteAnalyzer.rules, Catalog.Offers rule := by
  intro rule hrule
  rcases List.mem_cons.mp hrule with rfl | hrule
  · exact .sideEffectCode {}
  · obtain rfl := List.mem_singleton.mp hrule
    exact .statelessClass

/-- Under a comment that is no directive the finding is an error, whether that is stated or not. -/
theorem analyzeSource_setSeverity_iff_plainComment :
    let tree := commentedSuite "// slow"
    let parse : Parser := fun _ _ => tree
    let path : Path := ⟨"/repo/a.test.ts"⟩
    let rule := SideEffectCode.rule {}
    rule ∈ suiteAnalyzer.rules ∧ suiteAnalyzer.config.severity? rule.metadata.name = none ∧
      (∀ other ∈ suiteAnalyzer.rules, Catalog.Offers other) ∧
      (rule.apply (SourceFile.under suiteAnalyzer.root path tree.source) tree).map
        Diagnostic.severity = [.error] ∧
      ¬ Unexplained {} (SourceFile.under suiteAnalyzer.root path tree.source) tree.root ∧
      (suiteAnalyzer.statingSeverity rule.metadata.name rule.metadata.severity).analyzeSource parse
          path tree.source
        = suiteAnalyzer.analyzeSource parse path tree.source := by
  intro tree parse path rule
  have hrule : rule ∈ suiteAnalyzer.rules := List.mem_cons_self
  have hunset : suiteAnalyzer.config.severity? rule.metadata.name = none := rfl
  obtain ⟨hgeneral, hcatalog⟩ := analyzeSource_setSeverity_iff hrule hunset parse path tree.source
  have herror : (rule.apply (SourceFile.under suiteAnalyzer.root path tree.source) tree).map
      Diagnostic.severity = [.error] := by decide +kernel
  have hall : ∀ other, suiteAnalyzer.Runs other → other.metadata.name = rule.metadata.name →
      ∀ d ∈ other.apply (SourceFile.under suiteAnalyzer.root path tree.source) tree,
        d.severity = .error := by
    rintro other ⟨hother, -⟩ hname
    rcases List.mem_cons.mp hother with rfl | hother
    · intro d hd
      have hmem : d.severity ∈ [Severity.error] := herror ▸ List.mem_map_of_mem hd
      exact List.mem_singleton.mp hmem
    · rw [List.mem_singleton.mp hother] at hname
      exact absurd hname (by decide)
  have hsame := hgeneral.mpr (Or.inr hall)
  have haccepted : ¬ suiteAnalyzer.Refuses tree := fun hrefuses => Bool.false_ne_true hrefuses.1
  have hexplained := ((hcatalog offers_of_mem_suiteAnalyzer).mp hsame).resolve_left haccepted
  exact ⟨hrule, hunset, offers_of_mem_suiteAnalyzer, herror, hexplained rfl {} ⟨hrule, rfl⟩, hsame⟩

/-- **A warning that becomes an error**: a directive without a reason yields a warning, and an error
where the configuration states the severity that the rule has anyway. -/
theorem statedSeverity_raises_warning :
    let tree := commentedSuite "// treelint: allow(no-side-effect-code)"
    let parse : Parser := fun _ _ => tree
    let rule := SideEffectCode.rule {}
    let severities (analyzer : Analyzer) : Option (List Severity) :=
      (analyzer.analyzeSource parse ⟨"/repo/a.test.ts"⟩ tree.source).toOption.map
        (List.map Diagnostic.severity)
    rule ∈ suiteAnalyzer.rules ∧ suiteAnalyzer.config.severity? rule.metadata.name = none ∧
      severities suiteAnalyzer = some [.warning] ∧
      severities (suiteAnalyzer.statingSeverity rule.metadata.name rule.metadata.severity)
        = some [.error] := by
  intro tree parse rule severities
  exact ⟨List.mem_cons_self, rfl, by decide +kernel, by decide +kernel⟩

end Analyzer

end SuiteLint
