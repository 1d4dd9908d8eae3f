import Mathlib.Data.List.Flatten
import SuiteLint.Proofs.Rule.SuiteBody
import SuiteLint.Proofs.Tree.Admission

/-!
# Loosening the rule on side-effect code

Which places of a file the rule comes to does not depend on its settings, and each report is made or
left out by itself.  So a run under looser settings differs from one under stricter settings in the
judged parts only, place by place: `apply_sublist_of_loosens` says that it drops findings and does
nothing else.
-/

namespace SuiteLint.SideEffectCode

open SuiteLint.Tree (Node ClassifierSettings SyntaxTree)
open SuiteLint.Tree.ClassifierSettings (Loosens)

section

variable {strict loose : ClassifierSettings}

theorem judgedParts_sublist (h : Loosens strict loose) (place : Place) :
    (judgedParts loose place).Sublist (judgedParts strict place) := by
  unfold judgedParts
  split
  · exact Tree.suspectParts_sublist h _
  · split_ifs
    · exact Tree.suspectParts_sublist h _
    · exact .slnil
  · exact .slnil

/-- At one place, looser settings make fewer copies of the same report. -/
theorem findingsAt_sublist (h : Loosens strict loose) (file : SourceFile) (place : Place) :
    (findingsAt loose file place).Sublist (findingsAt strict file place) :=
  (judgedParts_sublist h place).flatMap _

/-- **Loosening never creates a finding**: the diagnostics under looser settings are those under the
stricter ones, less some, in the same order. -/
theorem apply_sublist_of_loosens (h : Loosens strict loose) (file : SourceFile)
    (tree : SyntaxTree) :
    (apply loose file tree).Sublist (apply strict file tree) := by
  rw [apply_eq_flatMap, apply_eq_flatMap]
  split_ifs
  · exact .flatMap_right _ fun place _ => findingsAt_sublist h file place
  · exact .slnil

end

/-- A construct of the grammar, with the field under which its parent holds it. -/
def construct (label : String) (field : Option String) (start : Nat) (text : String)
    (children : List Node) : Node :=
  { label := label, start := start, stop := start + text.utf8ByteSize, named := true, field := field
    text := text, children := children }

/-- The statement that calls a function without arguments. -/
def callStatement (start : Nat) (callee : String) : Node :=
  construct "expression_statement" none start (callee ++ "();")
    [construct "call_expression" none start (callee ++ "()")
      [construct "identifier" (some "function") start callee [],
       construct "arguments" (some "arguments") (start + callee.utf8ByteSize) "()" []]]

/-- The suite `describe(() => {load();save();})`. -/
def loadingSuite : SyntaxTree :=
  let body := "{load();save();}"
  let callback := "() => " ++ body
  let call := "describe(" ++ callback ++ ")"
  { source := call, hasErrors := false, dialect := .typescript
    root := construct "program" none 0 call
      [construct "expression_statement" none 0 call
        [construct "call_expression" none 0 call
          [construct "identifier" (some "function") 0 "describe" [],
           construct "arguments" (some "arguments") 8 ("(" ++ callback ++ ")")
            [construct "arrow_function" none 9 callback
              [construct "statement_block" (some "body") 15 body
                [callStatement 16 "load", callStatement 23 "save"]]]]]] }

/-- Both calls of the suite are found with the default settings; where `load()` is listed, the other
one is left. -/
theorem apply_sublist_of_loosens_loadingSuite :
    let file : SourceFile := { shown := ⟨"suite.test.ts"⟩, content := loadingSuite.source }
    let loose : ClassifierSettings := { safeCallTexts := ["moment()", "load()"] }
    Loosens {} loose ∧
      (apply loose file loadingSuite).Sublist (apply {} file loadingSuite) ∧
      (apply {} file loadingSuite).map (fun d => d.location.offset) = [16, 23] ∧
      (apply loose file loadingSuite).map (fun d => d.location.offset) = [23] := by
  intro file loose
  have hloose : Loosens {} loose :=
    ⟨by decide, fun _ => id, fun _ => id, fun _ hnone => absurd hnone Bool.false_ne_true⟩
  exact ⟨hloose, apply_sublist_of_loosens hloose file loadingSuite, by decide +kernel,
    by decide +kernel⟩

end SuiteLint.SideEffectCode
