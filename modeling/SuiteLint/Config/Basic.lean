import SuiteLint.Disk.Entry
import SuiteLint.Report.Severity
import SuiteLint.Toml.Value

/-!
# Configuration

What a check can be told: which rules to run, how grave their findings are, which options they get,
and where to look for files.
-/

namespace SuiteLint

/-! ### Rules -/

/-- **Settings of one rule**. -/
structure RuleSettings where
  /-- Whether the rule is switched on or off. -/
  enabled : Option Bool := none
  /-- The severity of its findings, in place of its own. -/
  severity : Option Severity := none
  /-- The listed options. -/
  options : List Toml.Value := []
  /-- The options written directly among the settings. -/
  fields : List (String × Toml.Value) := []

/-- **Options of a rule** as it receives them: those listed, then those written directly, as a
table of their own. -/
def RuleSettings.allOptions (settings : RuleSettings) : List Toml.Value :=
  if settings.fields.isEmpty then settings.options
  else settings.options ++ [.table settings.fields]

/-! ### Files -/

/-- **Settings for finding files**. -/
structure AnalyzerSettings where
  /-- The directory to start from. -/
  root : Path := ⟨"."⟩
  /-- Patterns of paths to leave out. -/
  exclude : List String := ["**/node_modules/**", "**/dist/**", "**/*.d.ts"]
  /-- Extensions of the files to look at. -/
  extensions : List String := ["ts", "tsx"]
  /-- Whether ignore files are honoured. -/
  respectGitignore : Bool := true
  /-- Whether a file with syntax errors is a failure. -/
  failOnParseError : Bool := false

/-! ### The whole -/

/-- **Configuration** of a check. -/
structure Config where
  /-- The preset to take the rules from. -/
  preset : Option String := none
  /-- The severity from which on a finding makes the check fail. -/
  failOn : Option Severity := none
  /-- How to find files. -/
  analyzer : AnalyzerSettings := {}
  /-- Settings by rule name. -/
  rules : List (String × RuleSettings) := []

namespace Config

/-- The settings of a rule, if there are any. -/
def rule? (config : Config) (name : String) : Option RuleSettings :=
  config.rules.lookup name

/-- Whether a rule is switched on, given what holds without a setting. -/
def isEnabled (config : Config) (name : String) (otherwise : Bool) : Bool :=
  ((config.rule? name).bind RuleSettings.enabled).getD otherwise

/-- The severity that the configuration gives a rule. -/
def severity? (config : Config) (name : String) : Option Severity :=
  (config.rule? name).bind RuleSettings.severity

/-- The options that the configuration gives a rule. -/
def optionsFor (config : Config) (name : String) : List Toml.Value :=
  ((config.rule? name).map RuleSettings.allOptions).getD []

/-- The severity from which on the check fails. -/
def threshold (config : Config) : Severity :=
  config.failOn.getD .error

end Config

/-! ### Failures -/

/-- **Why a configuration cannot be used**. -/
inductive ConfigError where
  /-- The file cannot be read. -/
  | unreadable (path : Path) (cause : ReadFailure)
  /-- The text is not a configuration. -/
  | invalid (reason : String)
  deriving DecidableEq, Repr

/-- The wording of a failure. -/
def ConfigError.message : ConfigError → String
  | unreadable path cause => "cannot read " ++ path.text ++ ": " ++ cause.message
  | invalid reason => "invalid configuration: " ++ reason

end SuiteLint
