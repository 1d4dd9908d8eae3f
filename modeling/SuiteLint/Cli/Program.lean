import SuiteLint.Analysis.Discovery
import SuiteLint.Cli.Help
import SuiteLint.Config.Source
import SuiteLint.Rule.Catalog

/-!
# The program

The program as a function: from the arguments, the environment, the files and a parser to what it
prints and how it ends.
-/

namespace SuiteLint.Cli

/-! ### Outcomes -/

/-- **Outcome** of a run. -/
structure Outcome where
  /-- The exit code. -/
  exit : Nat
  /-- What goes to the standard output. -/
  stdout : String
  /-- What goes to the standard error. -/
  stderr : String
  deriving DecidableEq, Repr

/-- **Failure** of a command: what was being done, why it failed, and why that happened. -/
structure Failure where
  /-- What was being done. -/
  doing : String
  /-- Why it failed. -/
  cause : String
  /-- What is behind the cause. -/
  behind : Option String := none
  deriving DecidableEq, Repr

/-- A text at an indentation, its further lines at the indentation `more`. -/
def indented (first more text : String) : String :=
  first ++ ("\n" ++ more).intercalate (text.splitOn "\n")

/-- The wording of a failure: several causes are numbered. -/
def Failure.message (f : Failure) : String :=
  "Error: " ++ f.doing ++ "\n\nCaused by:\n" ++
    (match f.behind with
      | none => indented "    " "    " f.cause
      | some behind =>
        indented "    0: " "       " f.cause ++ "\n" ++ indented "    1: " "       " behind) ++
    "\n"

namespace Failure

/-- The failure to load a configuration. -/
def ofConfig (path : Path) (e : ConfigError) : Failure :=
  { doing := "Failed to load config: " ++ path.text, cause := e.message
    behind := match e with
      | .unreadable _ cause => some cause.message
      | .invalid _ => none }

/-- The failure to set up the rules. -/
def ofRule (e : RuleError) : Failure :=
  { doing := "Failed to configure rules", cause := e.message }

/-- A failure of the analyzer. -/
def ofAnalyzer (doing : String) (e : AnalyzerError) : Failure :=
  { doing := doing, cause := e.message
    behind := match e with
      | .unreadable cause => some cause.message
      | .syntaxErrors _ => none
      | .glob cause => some cause.message }

end Failure

/-! ### Checking -/

/-- A finished check. -/
structure Checked where
  /-- The analyzer that made it. -/
  analyzer : Analyzer
  /-- What was found. -/
  result : LintResult

/-- The configuration from a source. -/
def loadConfig (disk : Disk) (source : ConfigSource) : Except Failure Config :=
  (source.load disk).mapError (Failure.ofConfig (source.path?.getD ⟨""⟩))

/-- The rules that a request names. -/
def requestedRules (request : CheckRequest) : List String :=
  match request.rules with
  | some list => (Text.commaList list.toList).map String.ofList
  | none => []

/-- **Checking** what a request names, configured from a source. -/
def check (disk : Disk) (parse : Parser) (env : Environment) (request : CheckRequest)
    (source : ConfigSource) : Except Failure Checked := do
  let config ← loadConfig disk source
  let rules ← (Catalog.rulesFor config (requestedRules request)).mapError Failure.ofRule
  let root := ConfigSource.directoryOf disk request.target
  let analyzer ← (Analyzer.build disk.cwd config rules (some root) request.exclude none).mapError
    (Failure.ofAnalyzer "Failed to build analyzer")
  let files := Discovery.discover analyzer disk env request.target
  let result ← (analyzer.analyzeFiles disk parse files).mapError
    (Failure.ofAnalyzer "Analysis failed")
  .ok { analyzer := analyzer, result := result }

/-- Whether the findings make a check fail. -/
def Checked.fails (checked : Checked) : Bool :=
  checked.result.hasAtLeast checked.analyzer.config.threshold

/-! ### Listing rules -/

/-- A row of the table of rules. -/
def tableRow (code name severity category description : String) : String :=
  Text.padRight 8 code ++ " " ++ Text.padRight 22 name ++ " " ++ Text.padRight 9 severity ++ " " ++
    Text.padRight 16 category ++ " " ++ description ++ "\n"

/-- **The table of rules**, with what to do about it. -/
def ruleTable : String :=
  "Available rules:\n\n" ++
    tableRow "Code" "Name" "Severity" "Category" "Description" ++
    String.ofList (List.replicate 100 '-') ++ "\n" ++
    String.join (Catalog.catalog.map (fun m =>
      tableRow m.code m.name m.severity.name m.category.name m.description)) ++
    "\nPresets:\n" ++
    "  recommended  - rules enabled by default (default)\n" ++
    "  all          - every available rule\n" ++
    "\nUse --rules to filter specific rules, e.g.:\n" ++
    "  treelint check --rules no-side-effect-code\n" ++
    "  treelint check --rules TL001,TL002\n"

/-! ### Running -/

/-- The directory of the user's own configuration. -/
def userDirectory (env : Environment) : Option Path :=
  match env.lookup "TREELINT_CONFIG_DIR" with
  | some directory => some ⟨directory⟩
  | none => env.home?.map (fun home => home.join ⟨".treelint"⟩)

/-- How to call the program. -/
def usage : String :=
  "Usage: treelint check [PATH] [-f|--format text|json|compact] [--rules LIST] " ++
    "[-e|--exclude PATTERN]...\n       treelint list-rules\n" ++
    "Everywhere: [-c|--config FILE] [-v|--verbose]\n"

/-- The outcome of a run that only tells something. -/
def Outcome.telling (text : String) : Outcome :=
  { exit := 0, stdout := text, stderr := "" }

/-- **Running** the program. -/
def run (disk : Disk) (parse : Parser) (env : Environment) (args : List String) : Outcome :=
  let configured := env.lookup "TREELINT_CONFIG"
  match Demand.read configured args with
  | none => { exit := 2, stdout := "", stderr := usage }
  | some .version => .telling versionText
  | some (.help topic full) => .telling (helpText configured topic full)
  | some (.run invocation) =>
    match invocation.command with
    | .listRules => .telling ruleTable
    | .check request =>
      let source :=
        ConfigSource.resolve disk request.target invocation.config (userDirectory env)
      match check disk parse env request source with
      | .error failure => { exit := 1, stdout := "", stderr := failure.message }
      | .ok checked =>
        { exit := if checked.fails then 1 else 0
          stdout := checked.result.print request.format disk checked.analyzer.root
          stderr := "" }

end SuiteLint.Cli
