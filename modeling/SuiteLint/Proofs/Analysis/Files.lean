import SuiteLint.Analysis.Analyzer
import SuiteLint.Proofs.Outcome.Success
import SuiteLint.Proofs.Rule.Located

/-!
# What an analysis of files finds

An analysis goes through its files one after the other and stops at the first one that fails.  If
there is none (`Analysable`), its result is the findings in all the files, put in report order:
`analyzeFiles_eq_ok_iff`.  Rules that are located in their file report it under the name that it has
from the root of the analyzer (`file_of_mem_findings`).
-/

namespace SuiteLint.Analyzer

open SuiteLint.Tree (Dialect SyntaxTree)

/-- The name under which a file is reported. -/
def shown (analyzer : Analyzer) (path : Path) : Path :=
  (analyzer.root.below? path).getD path

section

variable (analyzer : Analyzer) (disk : Disk) (parse : Parser)

/-- What the rules find in a source text, rule by rule. -/
def findingsIn (path : Path) (content : String) : List Diagnostic :=
  analyzer.rules.flatMap (analyzer.applyRule (SourceFile.under analyzer.root path content)
    (parse (Dialect.ofPath path) content))

/-- **Findings in a file** of a disk; none if it cannot be read. -/
def findings (path : Path) : List Diagnostic :=
  match disk.readText path with
  | .ok content => analyzer.findingsIn parse path content
  | .error _ => []

/-- **Analysable file**: it can be read, and its text can be analysed. -/
def Analysable (path : Path) : Prop :=
  ∃ content found, disk.readText path = .ok content ∧
    analyzer.analyzeSource parse path content = .ok found

end

variable {analyzer : Analyzer} {disk : Disk} {parse : Parser}

theorem findings_of_readText {path : Path} {content : String}
    (h : disk.readText path = .ok content) :
    analyzer.findings disk parse path = analyzer.findingsIn parse path content := by
  unfold findings
  rw [h]

theorem eq_findingsIn_of_analyzeSource {path : Path} {content : String} {found : List Diagnostic}
    (h : analyzer.analyzeSource parse path content = .ok found) :
    found = analyzer.findingsIn parse path content := by
  unfold analyzeSource at h
  dsimp only at h
  split at h
  · contradiction
  · exact (Except.ok.inj h).symm

theorem analyzeFile_eq_ok_iff {path : Path} {found : List Diagnostic} :
    analyzer.analyzeFile disk parse path = .ok found ↔
      analyzer.Analysable disk parse path ∧ found = analyzer.findings disk parse path := by
  unfold analyzeFile Analysable findings
  cases hread : disk.readText path with
  | error cause => simp
  | ok content =>
    constructor
    · intro h
      exact ⟨⟨content, found, rfl, h⟩, eq_findingsIn_of_analyzeSource h⟩
    · rintro ⟨⟨content', found', hcontent, h⟩, hfound⟩
      obtain rfl := Except.ok.inj hcontent
      rw [hfound]
      exact h.trans (congrArg _ (eq_findingsIn_of_analyzeSource h))

/-- **The result of an analysis**: the findings in all the files in report order, if every one of
them can be analysed. -/
theorem analyzeFiles_eq_ok_iff {files : List Path} {result : LintResult} :
    analyzer.analyzeFiles disk parse files = .ok result ↔
      (∀ path ∈ files, analyzer.Analysable disk parse path) ∧
        result = ({ diagnostics := files.flatMap (analyzer.findings disk parse)
                    filesChecked := files.length } : LintResult).sorted := by
  have hmap : (∀ path ∈ files, analyzer.Analysable disk parse path) →
      (files.map (analyzer.findings disk parse)).map Except.ok
        = files.map (analyzer.analyzeFile disk parse) := by
    intro hfine
    rw [List.map_map]
    refine List.map_congr_left fun path hpath => ?_
    exact (analyzeFile_eq_ok_iff.mpr ⟨hfine path hpath, rfl⟩).symm
  unfold analyzeFiles
  rw [bind_eq_ok_iff]
  simp only [mapM_eq_ok_iff]
  constructor
  · rintro ⟨found, hfound, hresult⟩
    have hfine : ∀ path ∈ files, analyzer.Analysable disk parse path := by
      intro path hpath
      have hmem : analyzer.analyzeFile disk parse path ∈ found.map Except.ok := by
        rw [hfound]
        exact List.mem_map_of_mem hpath
      obtain ⟨ds, -, heq⟩ := List.mem_map.mp hmem
      exact (analyzeFile_eq_ok_iff.mp heq.symm).1
    -- both lists are what the files give, one by one
    have heach : found = files.map (analyzer.findings disk parse) :=
      List.map_injective_iff.mpr (fun _ _ => Except.ok.inj) (hfound.trans (hmap hfine).symm)
    refine ⟨hfine, ?_⟩
    rw [← Except.ok.inj hresult, heach]
    rfl
  · rintro ⟨hfine, rfl⟩
    exact ⟨files.map (analyzer.findings disk parse), hmap hfine, rfl⟩

/-! ### Located rules -/

theorem location_of_mem_applyRule {file : SourceFile} {tree : SyntaxTree} {rule : Rule}
    {d : Diagnostic} (h : d ∈ analyzer.applyRule file tree rule) :
    ∃ e ∈ rule.apply file tree, d.location = e.location := by
  unfold applyRule withSeverity at h
  dsimp only at h
  split at h
  · split at h
    · obtain ⟨e, he, rfl⟩ := List.mem_map.mp h
      exact ⟨e, he, rfl⟩
    · exact ⟨d, h, rfl⟩
  · exact absurd h List.not_mem_nil

/-- **Located rules report a file under its name from the root**. -/
theorem file_of_mem_findings (hrules : ∀ rule ∈ analyzer.rules, rule.Located) {path : Path}
    {d : Diagnostic} (h : d ∈ analyzer.findings disk parse path) :
    d.location.file = analyzer.shown path := by
  unfold findings at h
  split at h
  · obtain ⟨rule, hrule, hd⟩ := List.mem_flatMap.mp h
    obtain ⟨e, he, hlocation⟩ := location_of_mem_applyRule hd
    rw [hlocation, hrules rule hrule _ _ e he]
    rfl
  · exact absurd h List.not_mem_nil

end SuiteLint.Analyzer
