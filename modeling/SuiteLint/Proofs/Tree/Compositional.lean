import SuiteLint.Proofs.Tree.Unlimited

/-!
# Classification is compositional

The classifier threads a level count through an expression, so a part is not judged the way it
would be on its own.  For expressions no higher than the limit this makes no difference
(`suspectParts_compositional`): the suspect parts of an array, object, spread or wrapper are those
of its parts, each classified on its own, and any other expression is suspect as a whole or not at
all.  The key is that a part may be looked at with any number of levels that exceeds its height
(`suspectParts_of_made`).
-/

namespace SuiteLint.Tree

/-! ### Shapes by kind -/

section

variable {expr : Node}

theorem shape_array (h : expr.kind = .arrayLiteral) : shape expr = .made expr.namedChildren := by
  simp [shape, h, Kind.isLiteral, Kind.isFunctionLiteral, Kind.isWrapper]

theorem shape_object (h : expr.kind = .objectLiteral) :
    shape expr = .made (expr.namedChildren.flatMap propertyParts) := by
  simp [shape, h, Kind.isLiteral, Kind.isFunctionLiteral, Kind.isWrapper]

theorem shape_spread (h : expr.kind = .spreadElement) :
    shape expr = .made expr.namedChildren.head?.toList := by
  simp [shape, h, Kind.isLiteral, Kind.isFunctionLiteral, Kind.isWrapper]

theorem shape_wrapper (h : expr.kind.isWrapper = true) :
    shape expr = .made (wrapped? expr).toList := by
  have hplain : (expr.kind.isLiteral || expr.kind.isFunctionLiteral) = false := by
    revert h
    cases expr.kind <;> simp [Kind.isWrapper, Kind.isLiteral, Kind.isFunctionLiteral]
  simp [shape, h, hplain]

end

/-! ### One level -/

section

variable (settings : ClassifierSettings) {expr : Node}

/-- Within the limit an expression is classified as by the unlimited classifier. -/
theorem suspectParts_eq_unlimited (h : expr.height ≤ classifierDepth) :
    suspectParts settings (some expr) = unlimitedSuspects settings expr :=
  suspects_eq_unlimited settings _ expr (Nat.lt_succ_of_le h)

/-- **The parts of an expression are classified on their own**. -/
theorem suspectParts_of_made {parts : List Node} (h : expr.height ≤ classifierDepth)
    (hshape : shape expr = .made parts) :
    suspectParts settings (some expr)
      = parts.flatMap (fun part => suspectParts settings (some part)) := by
  rw [suspectParts_eq_unlimited settings h, unlimitedSuspects_made hshape]
  refine List.flatMap_congr fun part hpart => ?_
  have hlt := height_lt_of_shape_made hshape hpart
  rw [suspectParts_eq_unlimited settings (by omega)]

theorem suspectParts_toList (part : Option Node) :
    part.toList.flatMap (fun part => suspectParts settings (some part))
      = suspectParts settings part := by
  cases part <;> simp [suspectParts]

/-- The suspect parts that a property of an object literal contributes: those of its value, of the
spread, or none. -/
def propertySuspects (property : Node) : List Node :=
  match property.kind with
  | .pair => suspectParts settings (property.field? "value")
  | .spreadElement => suspectParts settings (some property)
  | _ => []

theorem propertyParts_flatMap (property : Node) :
    (propertyParts property).flatMap (fun part => suspectParts settings (some part))
      = propertySuspects settings property := by
  by_cases hpair : property.kind = .pair
  · rw [propertyParts, propertySuspects, hpair]
    exact suspectParts_toList settings (property.field? "value")
  by_cases hspread : property.kind = .spreadElement
  · rw [propertyParts, propertySuspects, hspread]
    exact List.flatMap_singleton ..
  -- any other property has no parts and is never suspect
  have hparts : propertyParts property = [] := by
    unfold propertyParts
    split
    · contradiction
    · contradiction
    · rfl
  have hsuspects : propertySuspects settings property = [] := by
    unfold propertySuspects
    split
    · contradiction
    · contradiction
    · rfl
  rw [hparts, hsuspects, List.flatMap_nil]

theorem propertySuspects_eq_nil_iff (property : Node) :
    propertySuspects settings property = [] ↔
      (property.kind = .pair → isSafe settings (property.field? "value") = true) ∧
      (property.kind = .spreadElement → isSafe settings (some property) = true) := by
  unfold propertySuspects
  split <;> simp_all [isSafe]

/-- An expression of no composite kind is suspect as a whole or not at all. -/
theorem suspects_of_not_made (room : Nat) (h : ∀ parts, shape expr ≠ .made parts) :
    suspects settings room expr = [] ∨ suspects settings room expr = [expr] := by
  cases room with
  | zero => exact Or.inl rfl
  | succ room =>
    rw [suspects]
    cases hshape : shape expr with
    | harmless => exact Or.inl rfl
    | made parts => exact absurd hshape (h parts)
    | single =>
      dsimp only
      split_ifs
      · exact Or.inl rfl
      · exact Or.inr rfl

end

/-! ### The law -/

/-- Kinds of expressions that are harmless whatever is in them. -/
def Kind.isExempt (kind : Kind) : Bool :=
  kind.isLiteral || kind.isFunctionLiteral ||
    [.templateString, .memberExpression, .identifier].contains kind

/-- Kinds of expressions that are as harmless as their parts. -/
def Kind.isComposite (kind : Kind) : Bool :=
  kind.isWrapper || [.arrayLiteral, .objectLiteral, .spreadElement].contains kind

theorem shape_of_isExempt {expr : Node} (h : expr.kind.isExempt = true) :
    shape expr = .harmless := by
  unfold Kind.isExempt at h
  rcases (Bool.or_eq_true _ _).mp h with hplain | hlisted
  · simp [shape, hplain]
  · have hkind : expr.kind = .templateString ∨ expr.kind = .memberExpression ∨
        expr.kind = .identifier := by simpa using hlisted
    rcases hkind with hkind | hkind | hkind <;>
      simp [shape, hkind, Kind.isLiteral, Kind.isFunctionLiteral, Kind.isWrapper]

theorem shape_of_not_isComposite {expr : Node} (h : expr.kind.isComposite = false)
    (parts : List Node) : shape expr ≠ .made parts := by
  have hkinds : expr.kind.isWrapper = false ∧ expr.kind ≠ .arrayLiteral ∧
      expr.kind ≠ .objectLiteral ∧ expr.kind ≠ .spreadElement := by
    simpa [Kind.isComposite] using h
  obtain ⟨hwrapper, harray, hobject, hspread⟩ := hkinds
  unfold shape
  dsimp only
  split_ifs with hplain hwrap
  · simp
  · rw [hwrapper] at hwrap
    exact absurd hwrap Bool.false_ne_true
  · split <;> simp_all

/-- **Compositional classification** of an expression: what its suspect parts are in terms of its
parts, each classified on its own. -/
structure Compositional (settings : ClassifierSettings) (expr : Node) : Prop where
  /-- An array has those of its elements. -/
  array : expr.kind = .arrayLiteral → suspectParts settings (some expr)
    = expr.namedChildren.flatMap (fun child => suspectParts settings (some child))
  /-- An object has those of its values and spreads. -/
  object : expr.kind = .objectLiteral → suspectParts settings (some expr)
    = expr.namedChildren.flatMap (propertySuspects settings)
  /-- A spread has those of its operand. -/
  spread : expr.kind = .spreadElement → suspectParts settings (some expr)
    = suspectParts settings expr.namedChildren.head?
  /-- A wrapper has those of what it wraps. -/
  wrapper : expr.kind.isWrapper = true → suspectParts settings (some expr)
    = suspectParts settings (wrapped? expr)
  /-- An exempt expression has none. -/
  exempt : expr.kind.isExempt = true → suspectParts settings (some expr) = []
  /-- Anything else is suspect as a whole or not at all. -/
  whole : expr.kind.isComposite = false → suspectParts settings (some expr) = [] ∨
    suspectParts settings (some expr) = [expr]
  /-- An array is safe iff its elements are. -/
  array_safe : expr.kind = .arrayLiteral → (isSafe settings (some expr) = true ↔
    ∀ child ∈ expr.namedChildren, isSafe settings (some child) = true)
  /-- An object is safe iff its values and spreads are. -/
  object_safe : expr.kind = .objectLiteral → (isSafe settings (some expr) = true ↔
    ∀ property ∈ expr.namedChildren,
      (property.kind = .pair → isSafe settings (property.field? "value") = true) ∧
      (property.kind = .spreadElement → isSafe settings (some property) = true))

/-- **Below the nesting limit classification is compositional**. -/
theorem suspectParts_compositional (settings : ClassifierSettings) (expr : Node)
    (h : expr.height ≤ classifierDepth) : Compositional settings expr := by
  have harray : expr.kind = .arrayLiteral → suspectParts settings (some expr)
      = expr.namedChildren.flatMap (fun child => suspectParts settings (some child)) :=
    fun hkind => suspectParts_of_made settings h (shape_array hkind)
  have hobject : expr.kind = .objectLiteral → suspectParts settings (some expr)
      = expr.namedChildren.flatMap (propertySuspects settings) := by
    intro hkind
    rw [suspectParts_of_made settings h (shape_object hkind), List.flatMap_assoc]
    exact List.flatMap_congr fun property _ => propertyParts_flatMap settings property
  refine ⟨harray, hobject, fun hkind => ?_, fun hkind => ?_, fun hkind => ?_, fun hkind => ?_,
    fun hkind => ?_, fun hkind => ?_⟩
  · rw [suspectParts_of_made settings h (shape_spread hkind), suspectParts_toList]
  · rw [suspectParts_of_made settings h (shape_wrapper hkind), suspectParts_toList]
  · rw [suspectParts_eq_unlimited settings h,
      unlimitedSuspects_harmless (shape_of_isExempt hkind)]
  · exact suspects_of_not_made settings _ (shape_of_not_isComposite hkind)
  · simp only [isSafe, harray hkind, List.isEmpty_iff, List.flatMap_eq_nil_iff]
  · rw [isSafe, hobject hkind, List.isEmpty_iff, List.flatMap_eq_nil_iff]
    exact forall₂_congr fun property _ => propertySuspects_eq_nil_iff settings property

/-! ### An expression as high as the limit -/

/-- A bare token of one character. -/
def bareToken (start : Nat) (text : String) : Node :=
  { label := text, start := start, stop := start + 1, named := false, field := none, text := text
    children := [] }

/-- The call `load()` inside `n` pairs of brackets. -/
def bracketedCall : Nat → (start : Nat) → Node
  | 0, start =>
    { label := "call_expression", start := start, stop := start + 6, named := true, field := none
      text := "load()"
      children :=
        [{ label := "identifier", start := start, stop := start + 4, named := true
           field := some "function", text := "load", children := [] },
         { label := "arguments", start := start + 4, stop := start + 6, named := true
           field := some "arguments", text := "()"
           children := [bareToken (start + 4) "(", bareToken (start + 5) ")"] }] }
  | n + 1, start =>
    { label := "array", start := start, stop := start + 2 * n + 8, named := true, field := none
      text := "[" ++ (bracketedCall n (start + 1)).text ++ "]"
      children :=
        [bareToken start "[", bracketedCall n (start + 1), bareToken (start + 2 * n + 7) "]"] }

theorem height_bracketedCall (n start : Nat) : (bracketedCall n start).height = n + 2 := by
  induction n generalizing start with
  | zero => rfl
  | succ n ih =>
    rw [Node.height_eq_levels, bracketedCall]
    simp only [Node.levels, ih, bareToken, Node.height]
    omega

/-- 254 pairs of brackets around a call make an expression exactly as high as the limit. -/
theorem suspectParts_compositional_bracketedCall :
    (bracketedCall 254 10).height = classifierDepth ∧ Compositional {} (bracketedCall 254 10) := by
  have hheight : (bracketedCall 254 10).height = classifierDepth := height_bracketedCall 254 10
  exact ⟨hheight, suspectParts_compositional {} _ (Nat.le_of_eq hheight)⟩

end SuiteLint.Tree
