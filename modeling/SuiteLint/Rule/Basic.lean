import SuiteLint.Report.Diagnostic
import SuiteLint.Source.File
import SuiteLint.Toml.Value
import SuiteLint.Tree.Node

/-!
# Rules

A rule has a description of itself and a check that it runs on one file.
-/

namespace SuiteLint

/-! ### Descriptions -/

/-- What a rule is good for. -/
inductive RuleCategory where
  | maintainability
  | correctness
  | style
  deriving DecidableEq, Repr

/-- The written form of a category. -/
def RuleCategory.name : RuleCategory → String
  | maintainability => "maintainability"
  | correctness => "correctness"
  | style => "style"

/-- The categories in their order. -/
def RuleCategory.all : List RuleCategory := [.maintainability, .correctness, .style]

/-- **Description of a rule**. -/
structure RuleMetadata where
  /-- The name, used in configurations and directives. -/
  name : String
  /-- The code, used in reports. -/
  code : String
  /-- What it is good for. -/
  category : RuleCategory
  /-- One sentence on what it finds. -/
  description : String
  /-- Class of the issues it finds. -/
  issueClass : String
  /-- Type of the issues it finds. -/
  issueType : String
  /-- Severity of its findings. -/
  severity : Severity
  /-- Group of rules it belongs to. -/
  group : String
  /-- Whether it runs without being asked for. -/
  enabledByDefault : Bool
  /-- Whether it only makes sense with types. -/
  typescriptOnly : Bool
  /-- Numbers of the weaknesses it relates to. -/
  cwe : List Nat
  deriving DecidableEq, Repr

/-- **Rule**: its description and its check. -/
structure Rule where
  /-- The description. -/
  metadata : RuleMetadata
  /-- The diagnostics for one file, in the order of the reports. -/
  apply : SourceFile → Tree.SyntaxTree → List Diagnostic

/-! ### Failures -/

/-- **Why a rule cannot be set up**. -/
inductive RuleError where
  /-- An option has not the form it should have. -/
  | invalidOption (rule field reason : String)
  /-- There is no such rule. -/
  | unknown (name : String)
  deriving DecidableEq, Repr

/-- The wording of a failure. -/
def RuleError.message : RuleError → String
  | invalidOption rule field reason =>
    "invalid `" ++ field ++ "` option for rule " ++ rule ++ ": " ++ reason
  | unknown name => "unknown rule: " ++ name

/-! ### Options -/

/-- **Options of a rule**: a list of values, of which only the tables are looked into. -/
structure RuleOptions where
  /-- The values, later ones taking precedence. -/
  values : List Toml.Value := []

namespace RuleOptions

/-- The value of an option: the one in the last table that has the key. -/
def field? (options : RuleOptions) (key : String) : Option Toml.Value :=
  (options.values.reverse.filterMap Toml.Value.asTable?).findSome? (fun table => table.lookup key)

/-- An option that has to be a string. -/
def string? (options : RuleOptions) (rule key : String) : Except RuleError (Option String) :=
  match options.field? key with
  | none => .ok none
  | some v =>
    match v.asString? with
    | some text => .ok (some text)
    | none => .error (.invalidOption rule key ("expected a string, found " ++ v.typeName))

/-- The refusal of a value that is no array of strings. -/
def notStrings (rule key : String) (v : Toml.Value) : RuleError :=
  .invalidOption rule key ("expected an array of strings, found " ++ v.typeName)

/-- The texts of string values; the first value that is none is refused. -/
def allStrings (rule key : String) : List Toml.Value → Except RuleError (List String)
  | [] => .ok []
  | v :: rest =>
    match v.asString? with
    | none => .error (notStrings rule key v)
    | some text => (allStrings rule key rest).map (fun texts => text :: texts)

/-- An option that has to be an array of strings; empty when it is absent. -/
def strings (options : RuleOptions) (rule key : String) : Except RuleError (List String) :=
  match options.field? key with
  | none => .ok []
  | some v =>
    match v.asArray? with
    | some items => allStrings rule key items
    | none => .error (notStrings rule key v)

end RuleOptions

end SuiteLint
