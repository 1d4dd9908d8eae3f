import SuiteLint.Proofs.Tree.Admission
import SuiteLint.Proofs.Tree.Compositional
import SuiteLint.Proofs.Tree.NestingLimit

/-!
# The settings of the classifier as a filter on its findings

The lists and the pattern of the settings are asked in the middle of the classification, after some
kinds have been passed and others taken apart.  What they do can be said without that order: they
remove from the findings of empty settings each part that is on a list (`Listed`) or whose own text
the pattern matches (`Ignored`), and nothing else (`suspectParts_actsAsFilter`).  Only parts that
are judged by themselves ever come before them, and these are no arrays, objects, spreads or
wrappers, so that the text of a container decides nothing.
-/

namespace SuiteLint.Tree

/-! ### What is let pass -/

namespace ClassifierSettings

/-- **On one of the lists** of the settings. -/
inductive Listed (settings : ClassifierSettings) : Node → Prop where
  /-- A call with a listed text. -/
  | call {expr : Node} (hkind : expr.kind = .callExpression)
      (htext : expr.text ∈ settings.safeCallTexts) : Listed settings expr
  /-- A method call on a listed receiver. -/
  | methodCall {expr callee receiver : Node} (hkind : expr.kind = .callExpression)
      (hcallee : expr.field? "function" = some callee) (hmember : callee.kind = .memberExpression)
      (hreceiver : callee.field? "object" = some receiver)
      (htext : receiver.text ∈ settings.safeCallTargets) : Listed settings expr
  /-- `new` of a listed constructor. -/
  | construction {expr callee : Node} (hkind : expr.kind = .newExpression)
      (hcallee : expr.field? "constructor" = some callee) (hplain : callee.kind ≠ .memberExpression)
      (htext : callee.text ∈ settings.safeConstructors) : Listed settings expr
  /-- `new` of a member with the name of a listed constructor. -/
  | memberConstruction {expr callee name : Node} (hkind : expr.kind = .newExpression)
      (hcallee : expr.field? "constructor" = some callee)
      (hmember : callee.kind = .memberExpression) (hname : callee.field? "property" = some name)
      (htext : name.text ∈ settings.safeConstructors) : Listed settings expr

/-- **Matched by the pattern** of the settings, on its own text. -/
def Ignored (settings : ClassifierSettings) (expr : Node) : Prop :=
  ∃ regex, settings.ignore = some regex ∧ regex.isMatch expr.text = true

/-- **Let pass** by the settings, by one of the lists or by the pattern. -/
def LetsPass (settings : ClassifierSettings) (expr : Node) : Prop :=
  settings.Listed expr ∨ settings.Ignored expr

variable {settings : ClassifierSettings} {expr : Node}

theorem callTarget?_eq_some_iff {receiver : Node} :
    callTarget? expr = some receiver ↔
      ∃ callee, expr.field? "function" = some callee ∧ callee.kind = .memberExpression ∧
        callee.field? "object" = some receiver := by
  unfold callTarget?
  cases expr.field? "function" <;> simp

theorem constructedName?_eq_some_iff {name : String} :
    constructedName? expr = some name ↔
      ∃ callee, expr.field? "constructor" = some callee ∧
        ((callee.kind ≠ .memberExpression ∧ callee.text = name) ∨
          (callee.kind = .memberExpression ∧
            ∃ member, callee.field? "property" = some member ∧ member.text = name)) := by
  unfold constructedName?
  cases expr.field? "constructor" with
  | none => simp
  | some callee => by_cases hmember : callee.kind = .memberExpression <;> simp [hmember]

theorem lists_iff : settings.lists expr = true ↔ settings.Listed expr := by
  constructor
  · intro h
    unfold lists at h
    split at h
    case h_1 hkind =>
      rw [Bool.or_eq_true, List.contains_iff_mem, Option.any_eq_true] at h
      rcases h with htext | ⟨receiver, hreceiver, htext⟩
      · exact .call hkind htext
      · obtain ⟨callee, hcallee, hmember, hobject⟩ := callTarget?_eq_some_iff.mp hreceiver
        exact .methodCall hkind hcallee hmember hobject (List.contains_iff_mem.mp htext)
    case h_2 hkind =>
      rw [Option.any_eq_true] at h
      obtain ⟨name, hname, htext⟩ := h
      rw [List.contains_iff_mem] at htext
      obtain ⟨callee, hcallee, ⟨hplain, rfl⟩ | ⟨hmember, member, hproperty, rfl⟩⟩ :=
        constructedName?_eq_some_iff.mp hname
      · exact .construction hkind hcallee hplain htext
      · exact .memberConstruction hkind hcallee hmember hproperty htext
    case h_3 => contradiction
  · intro h
    cases h with
    | call hkind htext => simp [lists, hkind, htext]
    | methodCall hkind hcallee hmember hreceiver htext =>
      simp [lists, hkind, callTarget?_eq_some_iff.mpr ⟨_, hcallee, hmember, hreceiver⟩, htext]
    | construction hkind hcallee hplain htext =>
      simp [lists, hkind,
        constructedName?_eq_some_iff.mpr ⟨_, hcallee, Or.inl ⟨hplain, rfl⟩⟩, htext]
    | memberConstruction hkind hcallee hmember hname htext =>
      simp [lists, hkind,
        constructedName?_eq_some_iff.mpr ⟨_, hcallee, Or.inr ⟨hmember, _, hname, rfl⟩⟩, htext]

theorem ignores_iff : settings.ignores expr = true ↔ settings.Ignored expr :=
  Option.any_eq_true ..

instance : DecidablePred settings.Listed := fun _ => decidable_of_iff _ lists_iff

instance : DecidablePred settings.Ignored := fun _ => decidable_of_iff _ ignores_iff

instance : DecidablePred settings.LetsPass := fun _ => inferInstanceAs (Decidable (_ ∨ _))

theorem admits_iff : settings.admits expr = true ↔ settings.LetsPass expr := by
  rw [admits, Bool.or_eq_true, lists_iff, ignores_iff]
  rfl

end ClassifierSettings

open ClassifierSettings (bare)

/-! ### What comes before the settings -/

theorem shape_of_judgedAt {level : Nat} {expr part : Node} (h : JudgedAt level expr part) :
    shape part = .single := by
  induction h with
  | self hsingle => exact hsingle
  | within _ _ _ ih => exact ih

theorem exists_shape_of_isComposite {expr : Node} (h : expr.kind.isComposite = true) :
    ∃ parts, shape expr = .made parts := by
  have hkind : expr.kind.isWrapper = true ∨ expr.kind = .arrayLiteral ∨
      expr.kind = .objectLiteral ∨ expr.kind = .spreadElement := by
    simpa [Kind.isComposite] using h
  rcases hkind with hwrapper | harray | hobject | hspread
  · exact ⟨_, shape_wrapper hwrapper⟩
  · exact ⟨_, shape_array harray⟩
  · exact ⟨_, shape_object hobject⟩
  · exact ⟨_, shape_spread hspread⟩

/-- A container is never found as a whole, whatever the settings. -/
theorem isComposite_of_mem_suspectParts {settings : ClassifierSettings} {expr : Option Node}
    {part : Node} (h : part ∈ suspectParts settings expr) : part.kind.isComposite = false := by
  cases expr with
  | none => exact absurd h List.not_mem_nil
  | some e =>
    -- what is found was judged by itself, while a container is taken apart
    obtain ⟨level, _, hjudged, _⟩ := (mem_suspects_iff ..).mp h
    rw [Bool.eq_false_iff]
    intro hcomposite
    obtain ⟨parts, hmade⟩ := exists_shape_of_isComposite hcomposite
    rw [shape_of_judgedAt hjudged] at hmade
    contradiction

/-! ### The law -/

/-- **The settings act as a filter** on the findings in an expression. -/
structure ActsAsFilter (settings : ClassifierSettings) (expr : Option Node) : Prop where
  /-- The findings are those of empty settings, less what is on a list or matched by the pattern on
  its own text. -/
  filtered : suspectParts settings expr = (suspectParts bare expr).filter
    (fun part => ¬ settings.Listed part ∧ ¬ settings.Ignored part)
  /-- No array, object, spread or wrapper is among what the settings filter. -/
  no_container : ∀ part ∈ suspectParts bare expr, part.kind.isComposite = false
  /-- What is said of containers changes nothing: settings that let pass the same expressions of
  other kinds have the same findings. -/
  container_irrelevant : ∀ other : ClassifierSettings,
    (∀ part : Node, part.kind.isComposite = false →
      (other.LetsPass part ↔ settings.LetsPass part)) →
    suspectParts other expr = suspectParts settings expr
  /-- What is let pass has no effect on the rest: any other settings find the same, in the same
  order, among the parts that they treat alike. -/
  rest_unchanged : ∀ other : ClassifierSettings,
    (suspectParts other expr).filter (fun part => other.LetsPass part ↔ settings.LetsPass part)
      = (suspectParts settings expr).filter
          (fun part => other.LetsPass part ↔ settings.LetsPass part)

theorem admits_congr {settings other : ClassifierSettings} {part : Node}
    (h : other.LetsPass part ↔ settings.LetsPass part) :
    other.admits part = settings.admits part := by
  rw [Bool.eq_iff_iff, ClassifierSettings.admits_iff, ClassifierSettings.admits_iff]
  exact h

/-- **Settings are a filter**, on every expression and at any nesting. -/
theorem suspectParts_actsAsFilter (settings : ClassifierSettings) (expr : Option Node) :
    ActsAsFilter settings expr where
  filtered := by
    rw [suspectParts_eq_filter]
    refine List.filter_congr fun part _ => ?_
    rw [Bool.eq_iff_iff, Bool.not_eq_true', ← Bool.not_eq_true, decide_eq_true_iff, ← not_or]
    exact not_congr ClassifierSettings.admits_iff
  no_container _ hpart := isComposite_of_mem_suspectParts hpart
  container_irrelevant other h := by
    rw [suspectParts_eq_filter other, suspectParts_eq_filter settings]
    refine List.filter_congr fun part hpart => ?_
    rw [admits_congr (h part (isComposite_of_mem_suspectParts hpart))]
  rest_unchanged other := by
    rw [suspectParts_eq_filter other, suspectParts_eq_filter settings, List.filter_filter,
      List.filter_filter]
    refine List.filter_congr fun part _ => ?_
    by_cases halike : other.LetsPass part ↔ settings.LetsPass part
    · rw [admits_congr halike]
    · -- a part that they do not treat alike is left out on both sides
      rw [decide_eq_false halike, Bool.false_and, Bool.false_and]

/-- The text of an array on a list lets nothing in it pass. -/
example : suspectParts { safeCallTexts := ["[load()]"] } (some (bracketedCall 1 0))
    = [bracketedCall 0 1] := by
  rfl

end SuiteLint.Tree
