import SuiteLint.Analysis.Exclude
import SuiteLint.Config.Basic
import SuiteLint.Rule.Basic

/-!
# Analysis of files

An analyzer holds what a check needs: the directory that paths are reported from, the rules, the
patterns of what to leave out, and the configuration.  Parsing is not its business: the parser is
handed in.
-/

namespace SuiteLint

open SuiteLint.Tree (Dialect SyntaxTree)

/-- A parser of source texts. -/
abbrev Parser := Dialect → String → SyntaxTree

/-- The dialect of a file, by its extension. -/
def Tree.Dialect.ofPath (path : Path) : Dialect :=
  match path.extension? with
  | some ['t', 's', 'x'] | some ['j', 's', 'x'] => .tsx
  | _ => .typescript

/-! ### Failures -/

/-- **Why an analysis fails**. -/
inductive AnalyzerError where
  /-- A file cannot be read. -/
  | unreadable (cause : ReadFailure)
  /-- A file has syntax errors. -/
  | syntaxErrors (path : Path)
  /-- A pattern is not well formed. -/
  | glob (cause : Glob.Error)
  deriving DecidableEq, Repr

/-- The wording of a failure. -/
def AnalyzerError.message : AnalyzerError → String
  | unreadable cause => "IO error: " ++ cause.message
  | syntaxErrors path => "Parse error in " ++ path.text ++ ": source contains syntax errors"
  | glob cause => "Invalid glob pattern: " ++ cause.message

/-! ### Analyzers -/

/-- **Analyzer**. -/
structure Analyzer where
  /-- The directory that paths are reported from, absolute. -/
  root : Path
  /-- The rules, in the order they are applied. -/
  rules : List Rule
  /-- What to leave out. -/
  excludes : List ExcludePattern
  /-- The configuration. -/
  config : Config
  /-- Whether a file with syntax errors is a failure. -/
  failOnParseError : Bool

namespace Analyzer

/-- **Setting up** an analyzer in a working directory.  What is given in the call goes before what
the configuration has: the root, the patterns, and whether syntax errors are failures. -/
def build (cwd : Path) (config : Config) (rules : List Rule) (root : Option Path)
    (exclude : List String) (failOnParseError : Option Bool) : Except AnalyzerError Analyzer :=
  match (exclude ++ config.analyzer.exclude).mapM ExcludePattern.compile with
  | .error e => .error (.glob e)
  | .ok patterns =>
    .ok { root := cwd.join (root.getD config.analyzer.root), rules := rules, excludes := patterns
          config := config
          failOnParseError := failOnParseError.getD config.analyzer.failOnParseError }

/-- Whether a path is left out. -/
def isExcluded (analyzer : Analyzer) (path : Path) : Bool :=
  analyzer.excludes.any (fun pattern => pattern.excludes path.text.toList)

/-- The severity of diagnostics, replaced where the configuration has one for their rule. -/
def withSeverity (severity : Option Severity) (found : List Diagnostic) : List Diagnostic :=
  match severity with
  | some s => found.map (fun d => { d with severity := s })
  | none => found

/-- What one rule finds in a file, with the severity that the configuration asks for; nothing if it
is switched off. -/
def applyRule (analyzer : Analyzer) (file : SourceFile) (tree : SyntaxTree) (rule : Rule) :
    List Diagnostic :=
  let m := rule.metadata
  if analyzer.config.isEnabled m.name m.enabledByDefault then
    withSeverity (analyzer.config.severity? m.name) (rule.apply file tree)
  else []

/-- **Analysing one source text**, rule by rule. -/
def analyzeSource (analyzer : Analyzer) (parse : Parser) (path : Path) (content : String) :
    Except AnalyzerError (List Diagnostic) :=
  let tree := parse (Dialect.ofPath path) content
  if tree.hasErrors && analyzer.failOnParseError then .error (.syntaxErrors path)
  else
    let file := SourceFile.under analyzer.root path content
    .ok (analyzer.rules.flatMap (analyzer.applyRule file tree))

/-- The findings in one file of a disk. -/
def analyzeFile (analyzer : Analyzer) (disk : Disk) (parse : Parser) (path : Path) :
    Except AnalyzerError (List Diagnostic) :=
  match disk.readText path with
  | .error cause => .error (.unreadable cause)
  | .ok content => analyzer.analyzeSource parse path content

/-- **Analysing files** in order.  The first file that fails ends the analysis; the findings are in
report order. -/
def analyzeFiles (analyzer : Analyzer) (disk : Disk) (parse : Parser) (files : List Path) :
    Except AnalyzerError LintResult := do
  let found ← files.mapM (analyzer.analyzeFile disk parse)
  .ok ({ diagnostics := found.flatten, filesChecked := files.length } : LintResult).sorted

end Analyzer

end SuiteLint
