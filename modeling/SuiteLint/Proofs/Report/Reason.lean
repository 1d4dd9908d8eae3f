import SuiteLint.Proofs.Source.Directive
import SuiteLint.Report.Reporter

/-!
# Reasons that are heeded

A directive for a finding of error severity has to give a reason, or else a warning takes the place
of the finding.  Two lines can each carry a directive on one finding: its own line and the line
above, where a directive at the end of one statement speaks about the next one as well.  The line
above is asked first, and what it says is final.

So a reason that stands next to a finding is not always heeded.  `Allowance.reason_heeded_iff` says
when it is: if and only if there is no bare directive on the rule in the line above.
`Allowance.reason_overlooked` shows a reason on the finding's own line that is passed over.
-/

namespace SuiteLint

open SuiteLint.Tree (Node)

namespace Allowance

/-- `Speaks content line rule d`: the line with this number, counted from one, carries the directive
`d`, and `d` names the rule or `all`. -/
def Speaks (content : String) (line : Nat) (rule : String) (d : Directive) : Prop :=
  ∃ index text, line = index + 1 ∧ (Text.lines content)[index]? = some text ∧
    Directive.parse? text.toList = some d ∧ (rule.toList ∈ d.rules ∨ "all".toList ∈ d.rules)

/-- A directive in the line speaks about the rule and gives a reason. -/
def Explained (content : String) (line : Nat) (rule : String) : Prop :=
  ∃ d, Speaks content line rule d ∧ d.reason ≠ none

/-- A directive in the line speaks about the rule and gives no reason. -/
def Bare (content : String) (line : Nat) (rule : String) : Prop :=
  ∃ d, Speaks content line rule d ∧ d.reason = none

variable {content : String} {line : Nat} {rule : String} {d : Directive}

theorem onLine?_eq_some_iff_speaks :
    onLine? (Text.lines content) line rule = some d ↔ Speaks content line rule d := by
  cases line with
  | zero =>
    refine iff_of_false nofun ?_
    rintro ⟨index, _, hline, _⟩
    omega
  | succ index =>
    rw [onLine?_eq_some_iff]
    simp only [Directive.covers_iff]
    constructor
    · rintro ⟨text, htext, hparse, hcovers⟩
      exact ⟨index, text, rfl, htext, hparse, hcovers⟩
    · rintro ⟨_, text, hline, htext, hparse, hcovers⟩
      obtain rfl := Nat.succ.inj hline
      exact ⟨text, htext, hparse, hcovers⟩

theorem onLine?_eq_none_of_silent (h : ∀ d, ¬ Speaks content line rule d) :
    onLine? (Text.lines content) line rule = none :=
  Option.eq_none_iff_forall_ne_some.mpr fun d hd => h d (onLine?_eq_some_iff_speaks.mp hd)

/-- What the line above says is final. -/
theorem check_of_speaks_above (h : Speaks content (line - 1) rule d) :
    check content line rule = .allowed (d.reason.map String.ofList) := by
  have hline : line - 1 + 1 = line := by
    obtain ⟨index, _, hindex, _⟩ := h
    omega
  have hcheck := check_of_above (onLine?_eq_some_iff_speaks.mpr h)
  rwa [hline] at hcheck

/-- The line itself counts where the line above is silent. -/
theorem check_of_speaks_own (hsilent : ∀ d', ¬ Speaks content (line - 1) rule d')
    (h : Speaks content line rule d) :
    check content line rule = .allowed (d.reason.map String.ofList) :=
  check_of_own (onLine?_eq_none_of_silent hsilent) (onLine?_eq_some_iff_speaks.mpr h)

/-- Where both lines are silent, nothing is allowed. -/
theorem check_of_silent (habove : ∀ d, ¬ Speaks content (line - 1) rule d)
    (hown : ∀ d, ¬ Speaks content line rule d) : check content line rule = .denied :=
  check_eq_denied (onLine?_eq_none_of_silent habove) (onLine?_eq_none_of_silent hown)

theorem check_of_bare_above (h : Bare content (line - 1) rule) :
    check content line rule = .allowed none := by
  obtain ⟨d, hd, hreason⟩ := h
  rw [check_of_speaks_above hd, hreason]
  rfl

theorem check_of_explained
    (h : Explained content (line - 1) rule ∨ Explained content line rule)
    (hbare : ¬ Bare content (line - 1) rule) :
    ∃ reason, check content line rule = .allowed (some reason) := by
  by_cases habove : Explained content (line - 1) rule
  · obtain ⟨d, hd, hreason⟩ := habove
    obtain ⟨text, htext⟩ := Option.ne_none_iff_exists'.mp hreason
    exact ⟨String.ofList text, by rw [check_of_speaks_above hd, htext]; rfl⟩
  · -- a directive above would be explained or bare, so there is none
    have hsilent : ∀ d, ¬ Speaks content (line - 1) rule d := by
      intro d hd
      by_cases hreason : d.reason = none
      · exact hbare ⟨d, hd, hreason⟩
      · exact habove ⟨d, hd, hreason⟩
    obtain ⟨d, hd, hreason⟩ := h.resolve_left habove
    obtain ⟨text, htext⟩ := Option.ne_none_iff_exists'.mp hreason
    exact ⟨String.ofList text, by rw [check_of_speaks_own hsilent hd, htext]; rfl⟩

theorem outcome_of_allowed {r : Reporter} {node : Node} {reason : Option String}
    (h : check r.file.content (r.file.locate node.start node.width).line r.rule = .allowed reason)
    (message : String) :
    r.outcome node message =
      if Reporter.requiresReason r.severity && reason.isNone then
        [r.missingReason (r.file.locate node.start node.width)]
      else [] := by
  unfold Reporter.outcome
  dsimp only
  rw [h]

/-- **When a reason is heeded**.  Where the line of a finding or the line above has a directive on
the rule with a reason, the finding is allowed with a reason iff the line above has no directive on
the rule without one.  A report on that line then leaves nothing behind; under such a directive it
leaves the warning about a missing reason, if the rule asks for reasons. -/
theorem reason_heeded_iff
    (h : Explained content (line - 1) rule ∨ Explained content line rule) :
    ((∃ reason, check content line rule = .allowed (some reason)) ↔
        ¬ Bare content (line - 1) rule) ∧
      ∀ (r : Reporter) (node : Node) (message : String), r.file.content = content →
        r.rule = rule → (r.file.locate node.start node.width).line = line →
        (¬ Bare content (line - 1) rule → r.reportMessage node message = r) ∧
        (Bare content (line - 1) rule → Reporter.requiresReason r.severity = true →
          (r.reportMessage node message).diagnostics
            = r.diagnostics ++ [r.missingReason (r.file.locate node.start node.width)]) := by
  refine ⟨⟨?_, check_of_explained h⟩, ?_⟩
  · rintro ⟨reason, hreason⟩ hbare
    rw [check_of_bare_above hbare] at hreason
    simp at hreason
  · rintro r node message rfl rfl rfl
    constructor
    · intro hbare
      obtain ⟨reason, hreason⟩ := check_of_explained h hbare
      have hnothing : r.outcome node message = [] := by
        rw [outcome_of_allowed hreason]
        simp
      rw [Reporter.reportMessage, hnothing, List.append_nil]
    · intro hbare hrequires
      have hcheck := check_of_bare_above hbare
      rw [Reporter.reportMessage, outcome_of_allowed hcheck, hrequires]
      rfl

/-! ### Two directives on neighbouring lines -/

/-- A reporter of errors of the rule on side-effect code. -/
def errorReporter (content : String) : Reporter :=
  { file := { shown := ⟨"suite.test.ts"⟩, content := content }
    code := "TL001", rule := "no-side-effect-code", severity := .error }

/-- The call `load()` at an offset. -/
def loadCall (start : Nat) : Node :=
  { label := "call_expression", start := start, stop := start + 6, named := true, field := none
    text := "load()", children := [] }

/-- A directive above that speaks about another rule does not come in between. -/
theorem reason_heeded_iff_otherRuleAbove :
    let content := "// treelint: allow(no-stateless-class)\n" ++
      "load(); // treelint: allow(all) reason=\"fixture\"\n"
    let r := errorReporter content
    (Explained content (2 - 1) r.rule ∨ Explained content 2 r.rule) ∧
      (r.file.locate (loadCall 39).start (loadCall 39).width).line = 2 ∧
      ¬ Bare content (2 - 1) r.rule ∧
      (∃ reason, check content 2 r.rule = .allowed (some reason)) ∧
      r.reportMessage (loadCall 39) "found" = r := by
  intro content r
  have hown : onLine? (Text.lines content) 2 r.rule
      = some { rules := ["all".toList], reason := some "fixture".toList } := by decide +kernel
  have habove : onLine? (Text.lines content) 1 r.rule = none := by decide +kernel
  have hline : (r.file.locate (loadCall 39).start (loadCall 39).width).line = 2 := by
    decide +kernel
  have hexplained : Explained content 2 r.rule :=
    ⟨_, onLine?_eq_some_iff_speaks.mp hown, Option.some_ne_none _⟩
  have hbare : ¬ Bare content (2 - 1) r.rule := by
    rintro ⟨d, hd, -⟩
    rw [← onLine?_eq_some_iff_speaks, habove] at hd
    exact Option.some_ne_none d hd.symm
  have heither : Explained content (2 - 1) r.rule ∨ Explained content 2 r.rule := Or.inr hexplained
  obtain ⟨hcheck, hreport⟩ := reason_heeded_iff heither
  exact ⟨heither, hline, hbare, hcheck.mpr hbare,
    (hreport r (loadCall 39) "found" rfl rfl hline).1 hbare⟩

/-- **A reason that is passed over**: a directive at the end of one line, without a reason, speaks
about the next line too, and the reason that stands there is said to be missing. -/
theorem reason_overlooked :
    let content := "setup(); // treelint: allow(all)\n" ++
      "load(); // treelint: allow(all) reason=\"fixture\"\n"
    let r := errorReporter content
    Explained content 2 r.rule ∧ check content 2 r.rule = .allowed none ∧
      (r.reportMessage (loadCall 33) "found").diagnostics.map
          (fun d => (d.severity, d.location.line, d.message))
        = [(.warning, 2,
            "Allow directive for 'no-side-effect-code' is missing required reason")] := by
  intro content r
  have hown : onLine? (Text.lines content) 2 r.rule
      = some { rules := ["all".toList], reason := some "fixture".toList } := by decide +kernel
  exact ⟨⟨_, onLine?_eq_some_iff_speaks.mp hown, Option.some_ne_none _⟩, by decide +kernel,
    by decide +kernel⟩

end Allowance

end SuiteLint
