import SuiteLint.Config.Basic
import SuiteLint.Rule.SideEffectCode
import SuiteLint.Rule.StatelessClass

/-!
# The rules there are

The catalogue of rules, the presets that select from it, and the choice of rules for a run.
-/

namespace SuiteLint.Catalog

/-! ### Presets -/

/-- All rules with their default settings, in the order of the catalogue. -/
def allRules : List Rule :=
  [SideEffectCode.rule {}, StatelessClass.rule]

/-- Descriptions of all rules. -/
def catalog : List RuleMetadata :=
  allRules.map Rule.metadata

/-- **Preset**: a named choice of rules. -/
inductive Preset where
  /-- The rules that run by default. -/
  | recommended
  /-- All rules. -/
  | all
  deriving DecidableEq, Repr

/-- The preset of a name. -/
def Preset.ofName? : String → Option Preset
  | "recommended" => some .recommended
  | "all" => some .all
  | _ => none

/-- The name by which a preset is shown. -/
def Preset.name : Preset → String
  | .recommended => "Recommended"
  | .all => "All"

/-- The rules of a preset. -/
def Preset.rules : Preset → List Rule
  | .recommended => allRules.filter (fun rule => rule.metadata.enabledByDefault)
  | .all => allRules

/-! ### Choosing rules -/

/-- **Building a rule** by its name or code, with options. -/
def build (nameOrCode : String) (options : RuleOptions)
    (compile : Regex.Compiler := Regex.compiler) : Except RuleError Rule :=
  if nameOrCode = SideEffectCode.name ∨ nameOrCode = SideEffectCode.code then
    SideEffectCode.ofOptions options compile
  else if nameOrCode = StatelessClass.name ∨ nameOrCode = StatelessClass.code then
    .ok StatelessClass.rule
  else .error (.unknown nameOrCode)

/-- The name of the rule with a code; anything else stays as it is. -/
def canonicalName (nameOrCode : String) : String :=
  match catalog.find? (fun m => m.code == nameOrCode) with
  | some m => m.name
  | none => nameOrCode

/-- The rules asked for: those listed, or those of the preset when none is listed. -/
def requested (config : Config) (only : List String) : Except RuleError (List String) :=
  match only with
  | _ :: _ => .ok only
  | [] =>
    match config.preset with
    | none => .ok (Preset.recommended.rules.map (fun rule => rule.metadata.name))
    | some name =>
      match Preset.ofName? name with
      | some preset => .ok (preset.rules.map (fun rule => rule.metadata.name))
      | none => .error (.unknown ("preset '" ++ name ++ "'"))

/-- The rule asked for by a name or code, set up as configured. -/
def configured (compile : Regex.Compiler) (config : Config) (nameOrCode : String) :
    Except RuleError Rule :=
  build nameOrCode ⟨config.optionsFor (canonicalName nameOrCode)⟩ compile

/-- **Rules for a run**: those asked for, set up in order, without those that the configuration
switches off. -/
def rulesFor (config : Config) (only : List String) (compile : Regex.Compiler := Regex.compiler) :
    Except RuleError (List Rule) := do
  let names ← requested config only
  let rules ← names.mapM (configured compile config)
  .ok (rules.filter (fun rule => config.isEnabled rule.metadata.name true))

end SuiteLint.Catalog
