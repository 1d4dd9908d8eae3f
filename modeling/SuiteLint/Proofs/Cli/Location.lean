import SuiteLint.Cli.Program
import SuiteLint.Proofs.Analysis.Discovered
import SuiteLint.Proofs.Analysis.Files
import SuiteLint.Proofs.Config.Lookup
import SuiteLint.Proofs.Report.Order
import SuiteLint.Proofs.Rule.Loosening

/-!
# Where a check says its findings are

A check makes the directory that stands for its target the root of the analyzer, in absolute form,
and reports a file by what is left of its path below the root.  The files themselves keep the
spelling of the target.  From an absolute target both fit together: the reported path, joined to the
root, leads back to the file.  But a relative path is never below an absolute root.  It is reported
as it is, and joined to the root it takes the steps to the directory twice.

`check_location_iff`: the reported paths lead back to the files iff the target is absolute, or its
directory is the working directory itself.
-/

namespace SuiteLint

open SuiteLint.SideEffectCode (loadingSuite)

/-! ### Names from the root -/

/-- **The name from the root leads back to the file** iff the directory that the root stands for is
absolute or takes no step. -/
theorem Analyzer.place_join_shown_iff {analyzer : Analyzer} {cwd directory file : Path}
    (hcwd : cwd.isAbsolute = true) (hroot : analyzer.root = cwd.join directory)
    (h : directory.Above file) :
    (analyzer.root.join (analyzer.shown file)).place = (cwd.join file).place ↔
      directory.isAbsolute = true ∨ directory.place = [] := by
  unfold shown
  rw [hroot]
  cases hdirectory : directory.isAbsolute with
  | true =>
    -- the root is the directory itself, and the shown path is the rest of the file's
    have hfile : file.isAbsolute = true := h.isAbsolute.trans hdirectory
    obtain ⟨rest, hbelow, hrest, hplace⟩ := Path.below?_of_isPrefix hdirectory hfile h.place
    rw [Path.join_of_isAbsolute cwd hdirectory, Path.join_of_isAbsolute cwd hfile, hbelow,
      Option.getD_some, Path.place_join directory hrest, hplace]
    exact iff_of_true rfl (Or.inl rfl)
  | false =>
    -- the file is shown as it is, so that the steps to the directory are taken twice
    have hfile : file.isAbsolute = false := h.isAbsolute.trans hdirectory
    rw [Path.below?_of_relative (Path.isAbsolute_join hcwd directory) hfile, Option.getD_none,
      Path.place_join _ hfile, Path.place_join cwd hdirectory, Path.place_join cwd hfile,
      List.append_assoc, List.append_cancel_left_eq, List.append_left_eq_self,
      or_iff_right Bool.false_ne_true]

/-! ### Finished checks -/

theorem Analyzer.build_eq_ok {cwd : Path} {config : Config} {rules : List Rule}
    {root : Option Path} {exclude : List String} {failOnParseError : Option Bool}
    {analyzer : Analyzer}
    (h : build cwd config rules root exclude failOnParseError = .ok analyzer) :
    analyzer.root = cwd.join (root.getD config.analyzer.root) ∧ analyzer.rules = rules := by
  unfold build at h
  split at h
  · contradiction
  · obtain rfl := Except.ok.inj h
    exact ⟨rfl, rfl⟩

namespace Cli

variable {disk : Disk} {parse : Parser} {env : Environment} {request : CheckRequest}
  {source : ConfigSource} {checked : Checked}

/-- **A check succeeds** iff each of its steps does: the configuration is loaded, the rules are set
up, the analyzer is set up with the directory of the target as its root, and the discovered files
are analysed. -/
theorem check_eq_ok_iff :
    check disk parse env request source = .ok checked ↔
      ∃ config rules, source.load disk = .ok config ∧
        Catalog.rulesFor config (requestedRules request) = .ok rules ∧
        Analyzer.build disk.cwd config rules
          (some (ConfigSource.directoryOf disk request.target)) request.exclude none
            = .ok checked.analyzer ∧
        checked.analyzer.analyzeFiles disk parse
          (Discovery.discover checked.analyzer disk env request.target) = .ok checked.result := by
  unfold check loadConfig
  simp only [bind_eq_ok_iff, mapError_eq_ok_iff]
  constructor
  · rintro ⟨config, hconfig, rules, hrules, analyzer, hanalyzer, result, hresult, hchecked⟩
    obtain rfl := Except.ok.inj hchecked
    exact ⟨config, rules, hconfig, hrules, hanalyzer, hresult⟩
  · rintro ⟨config, rules, hconfig, hrules, hanalyzer, hresult⟩
    exact ⟨config, hconfig, rules, hrules, _, hanalyzer, _, hresult, rfl⟩

/-- **When reported paths lead back to the files**.  Every diagnostic of a check is a finding in a
discovered file; and the path that it reports, joined to the root of the analyzer, denotes that file
iff the target is absolute, or its directory takes no step from the working directory. -/
theorem check_location_iff (hcwd : disk.cwd.isAbsolute = true)
    (hnames : disk.root.wellNamed = true)
    (h : check disk parse env request source = .ok checked) :
    (∀ d ∈ checked.result.diagnostics,
      ∃ file ∈ Discovery.discover checked.analyzer disk env request.target,
        d ∈ checked.analyzer.findings disk parse file) ∧
    ∀ file ∈ Discovery.discover checked.analyzer disk env request.target,
      ∀ d ∈ checked.analyzer.findings disk parse file,
        ((checked.analyzer.root.join d.location.file).place = (disk.absolute file).place ↔
          request.target.isAbsolute = true ∨
            (ConfigSource.directoryOf disk request.target).place = []) := by
  obtain ⟨config, rules, -, hrules, hbuild, hresult⟩ := check_eq_ok_iff.mp h
  obtain ⟨hroot, hsame⟩ := Analyzer.build_eq_ok hbuild
  obtain ⟨-, hresult⟩ := Analyzer.analyzeFiles_eq_ok_iff.mp hresult
  constructor
  · intro d hd
    rw [hresult] at hd
    exact List.mem_flatMap.mp ((LintResult.sorted_perm _).mem_iff.mp hd)
  · intro file hfile d hd
    have hlocated : ∀ rule ∈ checked.analyzer.rules, rule.Located := by
      rw [hsame]
      exact Catalog.located_of_rulesFor hrules
    have habove := Discovery.above_of_mem_discover hnames hfile
    rw [Analyzer.file_of_mem_findings hlocated hd, ← ConfigSource.isAbsolute_directoryOf disk]
    exact Analyzer.place_join_shown_iff hcwd hroot habove

/-! ### A suite below the working directory -/

/-- A working directory `/repo` with a suite in `/repo/src`. -/
def diskWithSuite : Disk :=
  { root := .directory [("repo", .directory [("src", .directory
      [("suite.test.ts", .file loadingSuite.source.toUTF8)])])]
    cwd := ⟨"/repo"⟩ }

/-- The analyzer for a target on that disk, without a configuration. -/
def analyzerOfSuite (target : Path) : Analyzer :=
  { root := diskWithSuite.absolute (ConfigSource.directoryOf diskWithSuite target)
    rules := Catalog.allRules
    excludes := (({} : AnalyzerSettings).exclude.mapM ExcludePattern.compile).toOption.getD []
    config := {}
    failOnParseError := false }

/-- The names of the suite: the relative one and the absolute one. -/
def suiteNames : List Path :=
  [⟨"src/suite.test.ts"⟩, ⟨"/repo/src/suite.test.ts"⟩]

theorem discover_diskWithSuite {target : Path} (h : target ∈ suiteNames) :
    Discovery.discover (analyzerOfSuite target) diskWithSuite [] target = [target] := by
  have hwanted : ∀ name ∈ suiteNames,
      (Discovery.filesOf diskWithSuite [] true name).filter (fun path =>
        Discovery.hasExtension ["ts", "tsx"] path && !(analyzerOfSuite name).isExcluded path)
          = [name] := by
    decide +kernel
  unfold Discovery.discover
  exact (congrArg (List.mergeSort · _) (hwanted target h)).trans (List.mergeSort_singleton _)

/-- What a check by either name comes to. -/
theorem check_diskWithSuite {target : Path} (h : target ∈ suiteNames) :
    ∃ result, check diskWithSuite (fun _ _ => loadingSuite) [] { target := target } .defaults
        = .ok { analyzer := analyzerOfSuite target, result := result } ∧
      result.diagnostics.Perm
        ((analyzerOfSuite target).findings diskWithSuite (fun _ _ => loadingSuite) target) := by
  have hpatterns : ({} : AnalyzerSettings).exclude.mapM ExcludePattern.compile
      = .ok ((({} : AnalyzerSettings).exclude.mapM ExcludePattern.compile).toOption.getD []) := by
    decide +kernel
  have hbuild : Analyzer.build diskWithSuite.cwd {} Catalog.allRules
      (some (ConfigSource.directoryOf diskWithSuite target)) [] none
        = .ok (analyzerOfSuite target) := by
    unfold Analyzer.build
    rw [List.nil_append, hpatterns]
    rfl
  have hread : ∀ name ∈ suiteNames, diskWithSuite.readText name = .ok loadingSuite.source := by
    decide +kernel
  have hfine : ∀ path ∈ [target], (analyzerOfSuite target).Analysable diskWithSuite
      (fun _ _ => loadingSuite) path := by
    intro path hpath
    obtain rfl := List.mem_singleton.mp hpath
    exact ⟨loadingSuite.source, _, hread path h, rfl⟩
  let gathered : LintResult :=
    { diagnostics :=
        (analyzerOfSuite target).findings diskWithSuite (fun _ _ => loadingSuite) target
      filesChecked := 1 }
  have hanalysis : (analyzerOfSuite target).analyzeFiles diskWithSuite (fun _ _ => loadingSuite)
      (Discovery.discover (analyzerOfSuite target) diskWithSuite [] target)
        = .ok gathered.sorted := by
    rw [discover_diskWithSuite h, Analyzer.analyzeFiles_eq_ok_iff, List.flatMap_singleton]
    exact ⟨hfine, rfl⟩
  exact ⟨gathered.sorted,
    check_eq_ok_iff.mpr ⟨{}, Catalog.allRules, rfl, rfl, hbuild, hanalysis⟩,
    gathered.sorted_perm⟩

/-- By its absolute name the suite is reported as `suite.test.ts`, which leads back to it. -/
theorem check_location_iff_absoluteTarget :
    let target : Path := ⟨"/repo/src/suite.test.ts"⟩
    diskWithSuite.cwd.isAbsolute = true ∧ diskWithSuite.root.wellNamed = true ∧
      ∃ checked, check diskWithSuite (fun _ _ => loadingSuite) [] { target := target } .defaults
          = .ok checked ∧
        ∃ d ∈ checked.result.diagnostics, d.location.file = ⟨"suite.test.ts"⟩ ∧
          (checked.analyzer.root.join d.location.file).place
            = (diskWithSuite.absolute target).place := by
  intro target
  have hcwd : diskWithSuite.cwd.isAbsolute = true := by decide +kernel
  have hnames : diskWithSuite.root.wellNamed = true := by decide +kernel
  have hname : target ∈ suiteNames := by decide
  have hdiscover := discover_diskWithSuite hname
  obtain ⟨result, hcheck, hperm⟩ := check_diskWithSuite hname
  have hshown : Path.mk "suite.test.ts" ∈ ((analyzerOfSuite target).findings diskWithSuite
      (fun _ _ => loadingSuite) target).map (fun d => d.location.file) := by
    decide +kernel
  obtain ⟨d, hd, hfile⟩ := List.mem_map.mp hshown
  refine ⟨hcwd, hnames, _, hcheck, d, hperm.mem_iff.mpr hd, hfile, ?_⟩
  have hiff := (check_location_iff hcwd hnames hcheck).2 target
    (hdiscover ▸ List.mem_singleton_self _) d hd
  exact hiff.mpr (Or.inl (by decide +kernel))

/-- **A relative target**: by its relative name the suite is reported as `src/suite.test.ts`, which
leads from the root `/repo/src` to a place where there is no file. -/
theorem check_location_relativeTarget :
    let target : Path := ⟨"src/suite.test.ts"⟩
    ∃ checked, check diskWithSuite (fun _ _ => loadingSuite) [] { target := target } .defaults
        = .ok checked ∧
      Discovery.discover checked.analyzer diskWithSuite [] target = [target] ∧
      ∃ d ∈ checked.result.diagnostics,
        checked.analyzer.root.join d.location.file = ⟨"/repo/src/src/suite.test.ts"⟩ ∧
        (checked.analyzer.root.join d.location.file).place
          ≠ (diskWithSuite.absolute target).place := by
  intro target
  have hname : target ∈ suiteNames := by decide
  have hdiscover := discover_diskWithSuite hname
  obtain ⟨result, hcheck, hperm⟩ := check_diskWithSuite hname
  have hshown : target ∈ ((analyzerOfSuite target).findings diskWithSuite
      (fun _ _ => loadingSuite) target).map (fun d => d.location.file) := by
    decide +kernel
  obtain ⟨d, hd, hfile⟩ := List.mem_map.mp hshown
  have hjoin : (analyzerOfSuite target).root.join d.location.file
      = ⟨"/repo/src/src/suite.test.ts"⟩ := by
    rw [hfile]
    decide +kernel
  refine ⟨_, hcheck, hdiscover, d, hperm.mem_iff.mpr hd, hjoin, ?_⟩
  rw [hjoin]
  decide +kernel

end Cli

end SuiteLint
