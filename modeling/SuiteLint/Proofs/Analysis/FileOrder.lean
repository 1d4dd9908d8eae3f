import SuiteLint.Proofs.Analysis.Files
import SuiteLint.Proofs.Report.Order
import SuiteLint.Proofs.Rule.Loosening

/-!
# The order of the files does not matter

The findings in all the files are sorted by file and offset, and the sort leaves ties as they come.
If what is found in different files is never reported under one path (`ReportedApart`), a class of
ties lies inside the findings of one file, where the order is that of the rules and of their
reports.  So the result of an analysis does not depend on the order in which it gets its files:
`analyzeFiles_perm`.
-/

namespace SuiteLint.Analyzer

open SuiteLint.SideEffectCode (loadingSuite)
open SuiteLint.Tree (Dialect)

/-- **Files reported apart**: what is found in different files is reported under paths that differ
in their components. -/
def ReportedApart (analyzer : Analyzer) (disk : Disk) (parse : Parser) (files : List Path) : Prop :=
  ∀ p ∈ files, ∀ q ∈ files, p ≠ q → ∀ d ∈ analyzer.findings disk parse p,
    ∀ e ∈ analyzer.findings disk parse q, d.location.file.compare e.location.file ≠ .eq

section

variable {analyzer : Analyzer} {disk : Disk} {parse : Parser} {files files' : List Path}

/-- With located rules it is enough that the names from the root differ. -/
theorem reportedApart_of_shown (hrules : ∀ rule ∈ analyzer.rules, rule.Located)
    (h : ∀ p ∈ files, ∀ q ∈ files, p ≠ q →
      (analyzer.shown p).components ≠ (analyzer.shown q).components) :
    analyzer.ReportedApart disk parse files := by
  intro p hp q hq hne d hd e he
  rw [file_of_mem_findings hrules hd, file_of_mem_findings hrules he, ne_eq, Path.compare_eq_iff]
  exact h p hp q hq hne

/-- If only one element of a list contributes, then once for each time it occurs. -/
theorem flatMap_eq_replicate {α β : Type} [DecidableEq α] {f : α → List β} {as : List α} {a : α}
    (h : ∀ b ∈ as, b ≠ a → f b = []) :
    as.flatMap f = (List.replicate (as.count a) (f a)).flatten := by
  induction as with
  | nil => rfl
  | cons b rest ih =>
    rw [List.forall_mem_cons] at h
    rw [List.flatMap_cons, ih h.2]
    by_cases hb : b = a
    · rw [hb, List.count_cons_self, List.replicate_succ, List.flatten_cons]
    · rw [h.1 hb, List.count_cons_of_ne hb, List.nil_append]

/-- **A class of ties lies in one file**: the findings that tie with one of a file are those of that
file, once for each time it is analysed. -/
theorem filter_ties_flatMap (hapart : analyzer.ReportedApart disk parse files) {path : Path}
    (hpath : path ∈ files) {d x : Diagnostic} (hd : d ∈ analyzer.findings disk parse path)
    (hx : x.ties d = true) :
    (files.flatMap (analyzer.findings disk parse)).filter x.ties
      = (List.replicate (files.count path)
          ((analyzer.findings disk parse path).filter x.ties)).flatten := by
  rw [List.filter_flatMap]
  refine flatMap_eq_replicate fun other hother hne => ?_
  -- a finding of another file that ties with `x` would tie with `d`, against the hypothesis
  refine List.filter_eq_nil_iff.mpr fun e he hxe => ?_
  have hties := Diagnostic.compare_eq_of_ties hxe hx
  rw [← beq_iff_eq, ← Diagnostic.ties, Diagnostic.ties_iff] at hties
  exact hapart other hother path hpath hne e he d hd hties.1

theorem filter_ties_flatMap_perm (hapart : analyzer.ReportedApart disk parse files)
    (hperm : files.Perm files') (x : Diagnostic) :
    (files.flatMap (analyzer.findings disk parse)).filter x.ties
      = (files'.flatMap (analyzer.findings disk parse)).filter x.ties := by
  have hapart' : analyzer.ReportedApart disk parse files' := fun p hp q hq =>
    hapart p (hperm.mem_iff.mpr hp) q (hperm.mem_iff.mpr hq)
  by_cases hnone : (files.flatMap (analyzer.findings disk parse)).filter x.ties = []
  · -- nothing ties with `x`, in whatever order
    have hnone' := ((hperm.flatMap_right (analyzer.findings disk parse)).filter x.ties).symm
    rw [hnone] at hnone' ⊢
    exact (List.perm_nil.mp hnone').symm
  · -- something does, in one file, which both lists have equally often
    obtain ⟨d, hd⟩ := List.exists_mem_of_ne_nil _ hnone
    obtain ⟨hd, hx⟩ := List.mem_filter.mp hd
    obtain ⟨path, hpath, hd⟩ := List.mem_flatMap.mp hd
    rw [filter_ties_flatMap hapart hpath hd hx,
      filter_ties_flatMap hapart' (hperm.mem_iff.mp hpath) hd hx, hperm.count_eq]

/-- **The order of the files does not matter**.  If every file can be analysed and different files
are reported apart, an analysis has one result for all orders of its files.  It counts the files;
its diagnostics are those of all the files, sorted by file and offset; and those of a file that tie
are in the order of the rules and, within a rule, of its reports, once for each time that the file
is given. -/
theorem analyzeFiles_perm (hperm : files.Perm files')
    (hfine : ∀ path ∈ files, analyzer.Analysable disk parse path)
    (hapart : analyzer.ReportedApart disk parse files) :
    ∃ result, analyzer.analyzeFiles disk parse files = .ok result ∧
      analyzer.analyzeFiles disk parse files' = .ok result ∧
      result.filesChecked = files.length ∧
      result.diagnostics.Pairwise Diagnostic.InOrder ∧
      result.diagnostics.Perm (files.flatMap (analyzer.findings disk parse)) ∧
      ∀ path ∈ files, ∀ content, disk.readText path = .ok content →
        ∀ d ∈ analyzer.findings disk parse path,
          result.diagnostics.filter d.ties
            = (List.replicate (files.count path) (analyzer.rules.flatMap fun rule =>
                (analyzer.applyRule (SourceFile.under analyzer.root path content)
                  (parse (Dialect.ofPath path) content) rule).filter d.ties)).flatten := by
  let gathered : LintResult :=
    { diagnostics := files.flatMap (analyzer.findings disk parse), filesChecked := files.length }
  refine ⟨gathered.sorted, analyzeFiles_eq_ok_iff.mpr ⟨hfine, rfl⟩, ?_, rfl,
    gathered.pairwise_inOrder_sorted, gathered.sorted_perm, ?_⟩
  · have hfine' : ∀ path ∈ files', analyzer.Analysable disk parse path := fun path hpath =>
      hfine path (hperm.mem_iff.mpr hpath)
    refine analyzeFiles_eq_ok_iff.mpr ⟨hfine', LintResult.sorted_congr hperm.length_eq ?_⟩
    exact filter_ties_flatMap_perm hapart hperm
  · intro path hpath content hread d hd
    have hties := filter_ties_flatMap hapart hpath hd d.ties_self
    rw [gathered.filter_ties_sorted, hties, findings_of_readText hread, findingsIn,
      List.filter_flatMap]

end

/-- A directory `/repo` with two files of one content. -/
def diskWithTwoSuites : Disk :=
  { root := .directory [("repo", .directory
      [("a.test.ts", .file loadingSuite.source.toUTF8),
       ("b.test.ts", .file loadingSuite.source.toUTF8)])]
    cwd := ⟨"/repo"⟩ }

/-- An analyzer of that directory, with all rules of the catalogue. -/
def suiteAnalyzer : Analyzer :=
  { root := ⟨"/repo"⟩, rules := Catalog.allRules, excludes := [], config := {}
    failOnParseError := true }

/-- Two files with two findings each have one result in both orders. -/
theorem analyzeFiles_perm_twoSuites :
    let parse : Parser := fun _ _ => loadingSuite
    let files : List Path := [⟨"/repo/b.test.ts"⟩, ⟨"/repo/a.test.ts"⟩]
    files.Perm files.reverse ∧
      (∀ path ∈ files, suiteAnalyzer.Analysable diskWithTwoSuites parse path) ∧
      suiteAnalyzer.ReportedApart diskWithTwoSuites parse files ∧
      (∀ path ∈ files, (suiteAnalyzer.findings diskWithTwoSuites parse path).map
        (fun d => d.location.offset) = [16, 23]) ∧
      ∃ result, suiteAnalyzer.analyzeFiles diskWithTwoSuites parse files = .ok result ∧
        suiteAnalyzer.analyzeFiles diskWithTwoSuites parse files.reverse = .ok result ∧
        result.diagnostics.Pairwise Diagnostic.InOrder := by
  intro parse files
  have hperm : files.Perm files.reverse := (List.reverse_perm files).symm
  have hread : ∀ path ∈ files, diskWithTwoSuites.readText path = .ok loadingSuite.source := by
    decide +kernel
  have hfine : ∀ path ∈ files, suiteAnalyzer.Analysable diskWithTwoSuites parse path :=
    fun path hpath => ⟨loadingSuite.source, _, hread path hpath, rfl⟩
  have hrules : ∀ rule ∈ suiteAnalyzer.rules, rule.Located := by
    intro rule hrule
    rcases List.mem_cons.mp hrule with rfl | hrule
    · exact SideEffectCode.located_rule {}
    · obtain rfl := List.mem_singleton.mp hrule
      exact StatelessClass.located_rule
  have hapart : suiteAnalyzer.ReportedApart diskWithTwoSuites parse files :=
    reportedApart_of_shown hrules (by decide +kernel)
  obtain ⟨result, hresult, hresult', -, hsorted, -⟩ := analyzeFiles_perm hperm hfine hapart
  exact ⟨hperm, hfine, hapart, by decide +kernel, result, hresult, hresult', hsorted⟩

end SuiteLint.Analyzer
