import Mathlib.Data.List.Flatten
import SuiteLint.Proofs.Tree.Unlimited

/-!
# What the nesting limit of the classifier adds and removes

Past its limit the classifier means to take everything for harmless, so the limit should only ever
remove findings.  It does so for the parts that lie too deep.  But the constant test shares the
level count, and it answers "not constant" when the levels run out: a constant expression whose
operators reach below the limit becomes a finding that the unlimited classifier does not have.

* `suspects_filter_sublist`: apart from constant expressions the limit only removes findings;
* `mem_suspects_iff`: which parts are found, and at which level they are judged (`JudgedAt`);
* `suspectParts_sublist_iff`: the limit adds nothing iff no part that is judged by itself is a
  constant expression whose operators reach below the limit;
* `longConcatenation_suspect`: the concatenation of 258 string literals is such a part.
-/

namespace SuiteLint.Tree

/-! ### Levels -/

/-- `JudgedAt level expr part`: going down from `expr` through arrays, objects, spreads and
wrappers, the classifier comes to `part` after `level` steps and has to judge it by itself. -/
inductive JudgedAt : Nat → Node → Node → Prop where
  /-- The expression itself. -/
  | self {expr : Node} (h : shape expr = .single) : JudgedAt 0 expr expr
  /-- What is judged in one of its parts. -/
  | within {level : Nat} {expr part target : Node} {parts : List Node}
      (h : shape expr = .made parts) (hpart : part ∈ parts) (htarget : JudgedAt level part target) :
      JudgedAt (level + 1) expr target

theorem not_judgedAt_of_harmless {level : Nat} {expr target : Node} (h : shape expr = .harmless) :
    ¬ JudgedAt level expr target := by
  intro hjudged
  cases hjudged <;> simp_all

theorem judgedAt_made_iff {level : Nat} {expr target : Node} {parts : List Node}
    (h : shape expr = .made parts) :
    JudgedAt level expr target ↔
      ∃ below, level = below + 1 ∧ ∃ part ∈ parts, JudgedAt below part target := by
  constructor
  · intro hjudged
    cases hjudged with
    | self hsingle => simp_all
    | @within level _ part _ parts' hmade hpart htarget =>
      obtain rfl := Shape.made.inj (hmade.symm.trans h)
      exact ⟨level, rfl, part, hpart, htarget⟩
  · rintro ⟨below, rfl, part, hpart, htarget⟩
    exact .within h hpart htarget

theorem judgedAt_single_iff {level : Nat} {expr target : Node} (h : shape expr = .single) :
    JudgedAt level expr target ↔ level = 0 ∧ target = expr := by
  constructor
  · intro hjudged
    cases hjudged with
    | self => exact ⟨rfl, rfl⟩
    | within hmade => simp_all
  · rintro ⟨rfl, rfl⟩
    exact .self h

/-- The operators of a part that is judged reach no deeper than the expression does. -/
theorem level_add_operatorDepth_le {level : Nat} {expr target : Node}
    (h : JudgedAt level expr target) : level + operatorDepth target ≤ expr.height := by
  induction h with
  | @self expr _ =>
    have := operatorDepth_le_height expr
    omega
  | @within level expr part target parts hmade hpart _ ih =>
    have := height_lt_of_shape_made hmade hpart
    omega

/-- **Which parts are found** within `room` levels: those judged at one of them that neither the
settings nor the constant test, with the levels left there, let pass. -/
theorem mem_suspects_iff (settings : ClassifierSettings) (room : Nat) (expr target : Node) :
    target ∈ suspects settings room expr ↔
      ∃ level < room, JudgedAt level expr target ∧ settings.admits target = false ∧
        isConstant (room - level) target = false := by
  induction room generalizing expr with
  | zero => simp [suspects]
  | succ room ih =>
    rw [suspects]
    cases hshape : shape expr with
    | harmless => simp [not_judgedAt_of_harmless hshape]
    | made parts =>
      simp only [List.mem_flatMap, ih, judgedAt_made_iff hshape]
      -- one level further down there is one level less, so as many are left at the part
      constructor
      · rintro ⟨part, hpart, level, hlevel, hjudged, hadmits, hconst⟩
        refine ⟨level + 1, by omega, ⟨level, rfl, part, hpart, hjudged⟩, hadmits, ?_⟩
        rwa [Nat.add_sub_add_right]
      · rintro ⟨_, hlevel, ⟨level, rfl, part, hpart, hjudged⟩, hadmits, hconst⟩
        refine ⟨part, hpart, level, by omega, hjudged, hadmits, ?_⟩
        rwa [Nat.add_sub_add_right] at hconst
    | single =>
      simp only [judgedAt_single_iff hshape]
      constructor
      · intro hmem
        split_ifs at hmem with hpass
        · simp at hmem
        · obtain rfl := List.mem_singleton.mp hmem
          rw [Bool.or_eq_true, not_or, Bool.not_eq_true, Bool.not_eq_true] at hpass
          exact ⟨0, by omega, ⟨rfl, rfl⟩, hpass.1, hpass.2⟩
      · rintro ⟨level, _, ⟨rfl, rfl⟩, hadmits, hconst⟩
        rw [Nat.sub_zero] at hconst
        simp [hadmits, hconst]

/-! ### What the limit removes -/

/-- No finding of the unlimited classifier is a constant expression. -/
theorem constant_eq_false_of_mem_unlimited (settings : ClassifierSettings) {expr part : Node}
    (h : part ∈ unlimitedSuspects settings expr) : constant part = false := by
  -- a classifier with more levels than the expression is high finds the same parts
  rw [← suspects_eq_unlimited settings (expr.height + 1) expr (Nat.lt_succ_self _),
    mem_suspects_iff] at h
  obtain ⟨level, hlevel, hjudged, _, hconst⟩ := h
  have hheight : operatorDepth part < expr.height + 1 - level := by
    have := level_add_operatorDepth_le hjudged
    omega
  rw [Bool.eq_false_iff]
  intro htrue
  exact Bool.eq_false_iff.mp hconst ((isConstant_iff _ _).mpr ⟨htrue, hheight⟩)

/-- **Apart from constant expressions the limit only removes findings**. -/
theorem suspects_filter_sublist (settings : ClassifierSettings) (room : Nat) (expr : Node) :
    ((suspects settings room expr).filter (fun part => !constant part)).Sublist
      (unlimitedSuspects settings expr) := by
  induction room generalizing expr with
  | zero => simp [suspects]
  | succ room ih =>
    rw [suspects]
    cases hshape : shape expr with
    | harmless => simp
    | made parts =>
      rw [unlimitedSuspects_made hshape, List.filter_flatMap]
      exact List.Sublist.flatMap_right parts fun part _ => ih part
    | single =>
      rw [unlimitedSuspects_single hshape]
      -- a part that does not pass and is not constant is found by both
      cases hadmits : settings.admits expr with
      | true => simp
      | false =>
        cases hconst : constant expr with
        | true =>
          split_ifs <;> simp_all
        | false =>
          split_ifs <;> simp_all

theorem sublist_unlimited_iff (settings : ClassifierSettings) (room : Nat) (expr : Node) :
    (suspects settings room expr).Sublist (unlimitedSuspects settings expr) ↔
      ∀ part ∈ suspects settings room expr, constant part = false := by
  constructor
  · intro hsub part hpart
    exact constant_eq_false_of_mem_unlimited settings (hsub.subset hpart)
  · intro hall
    have hfilter : (suspects settings room expr).filter (fun part => !constant part)
        = suspects settings room expr := by
      rw [List.filter_eq_self]
      intro part hpart
      rw [hall part hpart]
      rfl
    rw [← hfilter]
    exact suspects_filter_sublist settings room expr

/-! ### Combinations of literals -/

/-- **Combination of literals**: complete binary and unary operations and parentheses over
literals. -/
inductive LiteralCombination : Node → Prop where
  /-- A literal. -/
  | literal {expr : Node} (h : expr.kind.isLiteral = true) : LiteralCombination expr
  /-- A binary operation with both operands. -/
  | binary {expr left right : Node} (h : expr.kind = .binaryExpression)
      (hleft : expr.field? "left" = some left) (hright : expr.field? "right" = some right)
      (left_combination : LiteralCombination left)
      (right_combination : LiteralCombination right) : LiteralCombination expr
  /-- A unary operation with its operand. -/
  | unary {expr argument : Node} (h : expr.kind = .unaryExpression)
      (hargument : expr.field? "argument" = some argument)
      (argument_combination : LiteralCombination argument) : LiteralCombination expr
  /-- Parentheses; they hold their content as the first named child, not under a field. -/
  | parentheses {expr inner : Node} (h : expr.kind = .parenthesizedExpression)
      (hfield : expr.field? "expression" = none)
      (hinner : expr.namedChildren.head? = some inner)
      (inner_combination : LiteralCombination inner) : LiteralCombination expr

/-- An operation is judged by itself. -/
theorem shape_operation {expr : Node}
    (h : expr.kind = .binaryExpression ∨ expr.kind = .unaryExpression) :
    shape expr = .single := by
  rcases h with h | h <;>
    simp [shape, h, Kind.isLiteral, Kind.isFunctionLiteral, Kind.isWrapper]

/-- No spelling of a known kind reads like a type. -/
theorem isTypeLabel_spellings : ∀ entry ∈ Kind.spellings, isTypeLabel entry.1 = false := by
  decide +kernel

theorem isTypeLabel_eq_false {node : Node} (h : node.kind ≠ .unknown) :
    isTypeLabel node.label = false := by
  have hkind : (Kind.spellings.lookup node.label).getD .unknown ≠ .unknown := h
  cases hlookup : Kind.spellings.lookup node.label with
  | none => simp [hlookup] at hkind
  | some kind =>
    obtain ⟨before, after, hsplit, _⟩ := List.lookup_eq_some_iff.mp hlookup
    exact isTypeLabel_spellings (node.label, kind) (by rw [hsplit]; simp)

namespace LiteralCombination

variable {expr : Node}

theorem kind_ne_unknown (h : LiteralCombination expr) : expr.kind ≠ .unknown := by
  intro hunknown
  cases h <;> simp_all [Kind.isLiteral]

/-- A combination of literals is a constant expression. -/
theorem constant_eq_true (h : LiteralCombination expr) : constant expr = true := by
  induction h with
  | @literal expr hliteral =>
    have hos : operands? expr = some [] := by
      unfold operands?
      split <;> simp_all [Kind.isLiteral]
    rw [constant_of_some hos]
    rfl
  | @binary expr left right hkind hleft hright _ _ ihleft ihright =>
    have hos : operands? expr = some [left, right] := by simp [operands?, hkind, hleft, hright]
    rw [constant_of_some hos]
    simp [ihleft, ihright]
  | @unary expr argument hkind hargument _ ih =>
    have hos : operands? expr = some [argument] := by simp [operands?, hkind, hargument]
    rw [constant_of_some hos]
    simp [ih]
  | @parentheses expr inner hkind _ hinner _ ih =>
    have hos : operands? expr = some [inner] := by
      rw [operands?, hkind]
      simp [hinner]
    rw [constant_of_some hos]
    simp [ih]

/-- Parentheses around a combination of literals are made of it. -/
theorem shape_parentheses {inner : Node} (h : expr.kind = .parenthesizedExpression)
    (hfield : expr.field? "expression" = none) (hinner : expr.namedChildren.head? = some inner)
    (inner_combination : LiteralCombination inner) : shape expr = .made [inner] := by
  have hwrapped : wrapped? expr = some inner := by
    obtain ⟨rest, hrest⟩ := List.head?_eq_some_iff.mp hinner
    rw [wrapped?, hfield, hrest]
    simp [isTypeLabel_eq_false inner_combination.kind_ne_unknown]
  simp [shape, h, hwrapped, Kind.isLiteral, Kind.isFunctionLiteral, Kind.isWrapper]

/-- **Combinations of literals are safe** for the unlimited classifier. -/
theorem unlimitedSuspects_eq_nil (settings : ClassifierSettings) (h : LiteralCombination expr) :
    unlimitedSuspects settings expr = [] := by
  induction h with
  | @literal expr hliteral =>
    exact unlimitedSuspects_harmless (by simp [shape, hliteral])
  | @binary expr left right hkind hleft hright hl hr _ _ =>
    rw [unlimitedSuspects_single (shape_operation (Or.inl hkind)),
      (binary hkind hleft hright hl hr).constant_eq_true]
    simp
  | @unary expr argument hkind hargument ha _ =>
    rw [unlimitedSuspects_single (shape_operation (Or.inr hkind)),
      (unary hkind hargument ha).constant_eq_true]
    simp
  | parentheses hkind hfield hinner hi ih =>
    rw [unlimitedSuspects_made (shape_parentheses hkind hfield hinner hi)]
    simp [ih]

end LiteralCombination

/-! ### When the limit adds nothing -/

/-- `WithinLimit settings expr`: every constant expression that is judged by itself, and that the
settings do not admit anyway, has its operators above the nesting limit. -/
def WithinLimit (settings : ClassifierSettings) (expr : Node) : Prop :=
  ∀ level part, JudgedAt level expr part → level ≤ classifierDepth →
    settings.admits part = false → constant part = true →
    level + operatorDepth part ≤ classifierDepth

theorem forall_constant_eq_false_iff_withinLimit (settings : ClassifierSettings) (expr : Node) :
    (∀ part ∈ suspects settings (classifierDepth + 1) expr, constant part = false) ↔
      WithinLimit settings expr := by
  constructor
  · intro hall level part hjudged hlevel hadmits hconst
    by_contra hdeep
    -- the constant test runs out of levels at the part, which is then found
    have hmem : part ∈ suspects settings (classifierDepth + 1) expr := by
      refine (mem_suspects_iff ..).mpr ⟨level, by omega, hjudged, hadmits, ?_⟩
      rw [Bool.eq_false_iff]
      intro htrue
      have := ((isConstant_iff _ _).mp htrue).2
      omega
    rw [hall part hmem] at hconst
    exact Bool.false_ne_true hconst
  · intro hwithin part hmem
    obtain ⟨level, hlevel, hjudged, hadmits, hnot⟩ := (mem_suspects_iff ..).mp hmem
    rw [Bool.eq_false_iff]
    intro hconst
    -- a constant part has its operators above the limit, so it passes the test
    have hdepth := hwithin level part hjudged (by omega) hadmits hconst
    exact Bool.eq_false_iff.mp hnot ((isConstant_iff _ _).mpr ⟨hconst, by omega⟩)

/-- **What the nesting limit does to the findings**: apart from constant expressions it only
removes some; it adds none at all iff the constant expressions stay within the limit; and on a
combination of literals, where there should be none, that decides whether it is safe. -/
theorem suspectParts_sublist_iff (settings : ClassifierSettings) (expr : Node) :
    ((suspectParts settings (some expr)).filter (fun part => !constant part)).Sublist
        (unlimitedSuspects settings expr) ∧
      ((suspectParts settings (some expr)).Sublist (unlimitedSuspects settings expr) ↔
        WithinLimit settings expr) ∧
      (LiteralCombination expr →
        (isSafe settings (some expr) = true ↔ WithinLimit settings expr)) := by
  have hiff : (suspectParts settings (some expr)).Sublist (unlimitedSuspects settings expr) ↔
      WithinLimit settings expr :=
    (sublist_unlimited_iff ..).trans (forall_constant_eq_false_iff_withinLimit ..)
  refine ⟨suspects_filter_sublist settings _ expr, hiff, fun hliterals => ?_⟩
  rw [← hiff, hliterals.unlimitedSuspects_eq_nil settings, List.sublist_nil, isSafe,
    List.isEmpty_iff]

/-! ### A long concatenation -/

/-- The string literal `'a'` at an offset. -/
def letterLiteral (start : Nat) (field : String) : Node :=
  let quote (offset : Nat) : Node :=
    { label := "'", start := offset, stop := offset + 1, named := false, field := none, text := "'"
      children := [] }
  let letter : Node :=
    { label := "string_fragment", start := start + 1, stop := start + 2, named := true
      field := none, text := "a", children := [] }
  { label := "string", start := start, stop := start + 3, named := true, field := some field
    text := "'a'", children := [quote start, letter, quote (start + 2)] }

/-- The concatenation `'a' + 'a' + ... + 'a'` with `n` operators, as the initialiser in
`const x = 'a' + ... + 'a';`. -/
def concatenation : Nat → (field : String) → Node
  | 0, field => letterLiteral 10 field
  | n + 1, field =>
    { label := "binary_expression", start := 10, stop := 19 + 6 * n, named := true
      field := some field, text := (concatenation n "left").text ++ " + 'a'"
      children :=
        [concatenation n "left",
         { label := "+", start := 14 + 6 * n, stop := 15 + 6 * n, named := false
           field := some "operator", text := "+", children := [] },
         letterLiteral (16 + 6 * n) "right"] }

theorem kind_letterLiteral (start : Nat) (field : String) :
    (letterLiteral start field).kind = .stringLiteral := by
  show Kind.ofLabel "string" = .stringLiteral
  decide

theorem kind_concatenation_succ (n : Nat) (field : String) :
    (concatenation (n + 1) field).kind = .binaryExpression := by
  show Kind.ofLabel "binary_expression" = .binaryExpression
  decide

theorem field_concatenation (n : Nat) (field : String) :
    (concatenation n field).field = some field := by
  cases n <;> rfl

theorem left_concatenation (n : Nat) (field : String) :
    (concatenation (n + 1) field).field? "left" = some (concatenation n "left") := by
  simp [concatenation, Node.field?, field_concatenation]

theorem right_concatenation (n : Nat) (field : String) :
    (concatenation (n + 1) field).field? "right" = some (letterLiteral (16 + 6 * n) "right") := by
  simp [concatenation, Node.field?, field_concatenation, letterLiteral]

theorem literalCombination_letterLiteral (start : Nat) (field : String) :
    LiteralCombination (letterLiteral start field) :=
  .literal (by rw [kind_letterLiteral]; rfl)

theorem literalCombination_concatenation (n : Nat) (field : String) :
    LiteralCombination (concatenation n field) := by
  induction n generalizing field with
  | zero => exact literalCombination_letterLiteral 10 field
  | succ n ih =>
    exact .binary (kind_concatenation_succ n field) (left_concatenation n field)
      (right_concatenation n field) (ih "left") (literalCombination_letterLiteral _ _)

theorem operatorDepth_letterLiteral (start : Nat) (field : String) :
    operatorDepth (letterLiteral start field) = 0 := by
  have hos : operands? (letterLiteral start field) = some [] := by
    rw [operands?, kind_letterLiteral]
    rfl
  rw [operatorDepth_of_some hos]
  rfl

/-- Every operator of a concatenation is one level below the next. -/
theorem operatorDepth_concatenation (n : Nat) (field : String) :
    operatorDepth (concatenation n field) = n := by
  induction n generalizing field with
  | zero => exact operatorDepth_letterLiteral 10 field
  | succ n ih =>
    have hos : operands? (concatenation (n + 1) field)
        = some [concatenation n "left", letterLiteral (16 + 6 * n) "right"] := by
      rw [operands?, kind_concatenation_succ]
      simp [left_concatenation, right_concatenation]
    rw [operatorDepth_of_some hos]
    simp [ih, operatorDepth_letterLiteral]

theorem not_withinLimit_concatenation {n : Nat} (field : String) (h : classifierDepth ≤ n) :
    ¬ WithinLimit {} (concatenation (n + 1) field) := by
  have hkind := kind_concatenation_succ n field
  have hshape := shape_operation (Or.inl hkind)
  have hadmits : ClassifierSettings.admits {} (concatenation (n + 1) field) = false := by
    simp [ClassifierSettings.admits, ClassifierSettings.lists, ClassifierSettings.ignores, hkind]
  intro hwithin
  have hdepth := hwithin 0 _ (.self hshape) (Nat.zero_le _) hadmits
    (literalCombination_concatenation (n + 1) field).constant_eq_true
  rw [operatorDepth_concatenation] at hdepth
  omega

/-- **The limit adds a finding**: with 257 operators the concatenation of string literals is
reported, though it is a combination of literals and the unlimited classifier has nothing against
it. -/
theorem longConcatenation_suspect :
    LiteralCombination (concatenation 257 "value") ∧
      unlimitedSuspects {} (concatenation 257 "value") = [] ∧
      isSafe {} (some (concatenation 257 "value")) = false ∧
      ¬ (suspectParts {} (some (concatenation 257 "value"))).Sublist
        (unlimitedSuspects {} (concatenation 257 "value")) := by
  have hliterals := literalCombination_concatenation 257 "value"
  have hnil := hliterals.unlimitedSuspects_eq_nil {}
  have hnot : ¬ (suspectParts {} (some (concatenation 257 "value"))).Sublist
      (unlimitedSuspects {} (concatenation 257 "value")) := by
    intro hsub
    refine not_withinLimit_concatenation (n := 256) "value" (Nat.le_refl _) ?_
    exact (forall_constant_eq_false_iff_withinLimit ..).mp ((sublist_unlimited_iff ..).mp hsub)
  refine ⟨hliterals, hnil, ?_, hnot⟩
  rw [hnil, List.sublist_nil] at hnot
  rw [isSafe, List.isEmpty_eq_false_iff]
  exact hnot

end SuiteLint.Tree
