import SuiteLint.Config.Basic
import SuiteLint.Toml.Document

/-!
# Reading configurations

From the text of a configuration file to a `Config`.  Types are strict; a key that is absent means
its default, and a key that is not known is passed over, except among the settings of a rule, where
it becomes one of the rule's options.
-/

namespace SuiteLint.Config

open SuiteLint.Toml (Value)

/-- A value that has not the type its key calls for. -/
structure Mismatch where
  /-- The key. -/
  key : String
  /-- What it calls for. -/
  wanted : String
  /-- The type found. -/
  found : String

/-- The wording of a mismatch. -/
def Mismatch.message (m : Mismatch) : String :=
  "invalid type for " ++ m.key ++ ": expected " ++ m.wanted ++ ", found " ++ m.found

/-! ### Types -/

/-- Reads a value by a partial function, or tells what was expected. -/
def expect {α : Type} (key wanted : String) (read : Value → Option α) (v : Value) :
    Except Mismatch α :=
  match read v with
  | some a => .ok a
  | none => .error ⟨key, wanted, v.typeName⟩

/-- An array of strings. -/
def stringArray? : Value → Option (List String)
  | .array items => items.mapM Value.asString?
  | _ => none

/-- A severity: its name, or a table with its name as the only key and nothing in it. -/
def severityValue? : Value → Option Severity
  | .string text => Severity.ofName? text
  | .table [(name, .table [])] | .table [(name, .array [])] => Severity.ofName? name
  | _ => none

/-- The value of an optional key. -/
def optional {α : Type} (key wanted : String) (read : Value → Option α)
    (entries : List (String × Value)) : Except Mismatch (Option α) :=
  match entries.lookup key with
  | none => .ok none
  | some v => (expect key wanted read v).map some

/-- The value of a key with a default. -/
def withDefault {α : Type} (otherwise : α) (key wanted : String) (read : Value → Option α)
    (entries : List (String × Value)) : Except Mismatch α :=
  (optional key wanted read entries).map (fun found => found.getD otherwise)

/-! ### Sections -/

/-- Settings for finding files, from the entries of a table. -/
def analyzerOf (entries : List (String × Value)) : Except Mismatch AnalyzerSettings := do
  let base : AnalyzerSettings := {}
  let root ← withDefault base.root "root" "a string"
    (fun v => v.asString?.map Path.mk) entries
  let exclude ← withDefault base.exclude "exclude" "an array of strings" stringArray? entries
  let extensions ←
    withDefault base.extensions "extensions" "an array of strings" stringArray? entries
  let respect ←
    withDefault base.respectGitignore "respect_gitignore" "a boolean" Value.asBool? entries
  let failing ←
    withDefault base.failOnParseError "fail_on_parse_error" "a boolean" Value.asBool? entries
  .ok { root := root, exclude := exclude, extensions := extensions
        respectGitignore := respect, failOnParseError := failing }

/-- The keys of the settings for finding files, in the order in which an array lists their
values. -/
def analyzerKeys : List String :=
  ["root", "exclude", "extensions", "respect_gitignore", "fail_on_parse_error"]

/-- Settings for finding files: a table, or the values alone in order. -/
def analyzerValue : Value → Except Mismatch AnalyzerSettings
  | .array items => analyzerOf (analyzerKeys.zip items)
  | v => do analyzerOf (← expect "analyzer" "a table" Value.asSection? v)

/-- The keys of a rule's settings that have a meaning of their own. -/
def ruleKeys : List String := ["enabled", "severity", "options"]

/-- An array of options. -/
def optionArray? : Value → Option (List Value)
  | .array items => Toml.reviveItems false items
  | _ => none

/-- Settings of one rule. -/
def ruleValue (name : String) (v : Value) : Except Mismatch RuleSettings := do
  let entries ← expect name "a table" Value.asSection? v
  let enabled ← optional "enabled" "a boolean" Value.asBool? entries
  let severity ← optional "severity" "a severity" severityValue? entries
  let options ← withDefault [] "options" "an array" optionArray? entries
  let rest := entries.filter (fun (key, _) => !ruleKeys.contains key)
  let fields ← rest.mapM (fun (key, v) => do
    .ok (key, ← expect key "an option" (Value.revive true) v))
  .ok { enabled := enabled, severity := severity, options := options, fields := fields }

/-- Settings of all rules. -/
def rulesValue : Value → Except Mismatch (List (String × RuleSettings))
  | .table entries => entries.mapM (fun (name, v) => do .ok (name, ← ruleValue name v))
  | v => .error ⟨"rules", "a table", v.typeName⟩

/-- The configuration that the entries of a document stand for. -/
def ofEntries (entries : List (String × Value)) : Except Mismatch Config := do
  let preset ← optional "preset" "a string" Value.asString? entries
  let failOn ← optional "fail_on" "a severity" severityValue? entries
  let analyzer ← match entries.lookup "analyzer" with
    | none => Except.ok ({} : AnalyzerSettings)
    | some v => analyzerValue v
  let rules ← match entries.lookup "rules" with
    | none => Except.ok []
    | some v => rulesValue v
  .ok { preset := preset, failOn := failOn, analyzer := analyzer, rules := rules }

/-! ### Texts and files -/

/-- **Reading a configuration** from its text. -/
def parse (text : String) : Except ConfigError Config :=
  match Toml.parse text with
  | .error e => .error (.invalid e.message)
  | .ok entries =>
    match ofEntries entries with
    | .error e => .error (.invalid e.message)
    | .ok config => .ok config

/-- Reading a configuration file. -/
def load (disk : Disk) (path : Path) : Except ConfigError Config :=
  match disk.readText path with
  | .error cause => .error (.unreadable path cause)
  | .ok text => parse text

end SuiteLint.Config
