import SuiteLint.Cli.Arguments

/-!
# Help

How to call the program, as it tells it.  The summary of an option is one line; the full form puts
what it does below it, with its details apart.
-/

namespace SuiteLint.Cli

/-! ### Entries -/

/-- An entry of a help text. -/
structure HelpEntry where
  /-- How it is written. -/
  form : String
  /-- What it does. -/
  does : String
  /-- Details, such as a default, in brackets. -/
  details : List String := []
  /-- The values it can have, and what they mean. -/
  values : List (String × String) := []

/-- The values of an entry as a detail. -/
def HelpEntry.valueDetail (entry : HelpEntry) : List String :=
  if entry.values.isEmpty then []
  else ["[possible values: " ++ ", ".intercalate (entry.values.map Prod.fst) ++ "]"]

/-- The greatest length of texts. -/
def widest (texts : List String) : Nat :=
  (texts.map String.length).foldl max 0

/-- A list of entries, one line each. -/
def shortEntries (entries : List HelpEntry) : String :=
  let width := widest (entries.map HelpEntry.form)
  String.join (entries.map (fun entry =>
    "  " ++ Text.padRight width entry.form ++ "  " ++
      " ".intercalate (entry.does :: entry.details ++ entry.valueDetail) ++ "\n"))

/-- The indentation of what stands below an entry. -/
def below : String := Text.blanks 10

/-- An entry in full. -/
def HelpEntry.full (entry : HelpEntry) : String :=
  let details :=
    if entry.details.isEmpty then ""
    else "\n" ++ below ++ "\n" ++ below ++ " ".intercalate entry.details
  let width := widest (entry.values.map Prod.fst)
  let values :=
    if entry.values.isEmpty then ""
    else "\n\n" ++ below ++ "Possible values:" ++
      String.join (entry.values.map (fun (name, meaning) =>
        "\n" ++ below ++ "- " ++ name ++ ": " ++ Text.blanks (width - name.length) ++ meaning))
  "  " ++ entry.form ++ "\n" ++ below ++ entry.does ++ details ++ values ++ "\n"

/-- A list of entries in full, with empty lines between them. -/
def fullEntries (entries : List HelpEntry) : String :=
  "\n".intercalate (entries.map HelpEntry.full)

/-! ### Texts -/

/-- The option that asks for more logging. -/
def verboseEntry : HelpEntry :=
  { form := "-v, --verbose", does := "Enable verbose output" }

/-- The option that names the configuration, `configured` being the file that the environment asks
for. -/
def configEntry (configured : Option String) : HelpEntry :=
  { form := "-c, --config <CONFIG>", does := "Path to configuration file"
    details := ["[env: TREELINT_CONFIG=" ++ configured.getD "" ++ "]"] }

/-- The option that asks for help. -/
def helpEntry (does : String) : HelpEntry :=
  { form := "-h, --help", does := does }

/-- The commands. -/
def commandEntries : List HelpEntry :=
  [{ form := "check", does := "Run lint checks" },
   { form := "list-rules", does := "List available rules" },
   { form := "help", does := "Print this message or the help of the given subcommand(s)" }]

/-- What a check is about. -/
def targetEntry : HelpEntry :=
  { form := "[PATH]", does := "File or directory to analyze (default: current directory)"
    details := ["[default: .]"] }

/-- The options of a check. -/
def checkEntries (configured : Option String) (full : Bool) : List HelpEntry :=
  [{ form := "-f, --format <FORMAT>", does := "Output format", details := ["[default: text]"]
     values :=
      [("text", "Human-readable output with source snippets"), ("json", "JSON output"),
       ("compact", "One-line-per-diagnostic compact format")] },
   verboseEntry,
   configEntry configured,
   { form := "    --rules <RULES>"
     does := "Only run specific rules (comma-separated names or codes)" },
   { form := "-e, --exclude <EXCLUDE>"
     does := "Exclude patterns (can be specified multiple times)" },
   helpEntry (if full then "Print help (see a summary with '-h')"
     else "Print help (see more with '--help')")]

/-- **Help** about a topic. -/
def helpText (configured : Option String) : Topic → (full : Bool) → String
  | .program, _ =>
    "CLI tool for the treelint TypeScript linter\n\nUsage: treelint [OPTIONS] <COMMAND>\n\n" ++
      "Commands:\n" ++ shortEntries commandEntries ++ "\nOptions:\n" ++
      shortEntries [verboseEntry, configEntry configured, helpEntry "Print help",
        { form := "-V, --version", does := "Print version" }]
  | .listRules, _ =>
    "List available rules\n\nUsage: treelint list-rules [OPTIONS]\n\nOptions:\n" ++
      shortEntries [verboseEntry, configEntry configured, helpEntry "Print help"]
  | .check, full =>
    let entries := if full then fullEntries else shortEntries
    "Run lint checks\n\nUsage: treelint check [OPTIONS] [PATH]\n\nArguments:\n" ++
      entries [targetEntry] ++ "\nOptions:\n" ++ entries (checkEntries configured full)

/-- The version. -/
def versionText : String := "treelint 0.3.0\n"

end SuiteLint.Cli
