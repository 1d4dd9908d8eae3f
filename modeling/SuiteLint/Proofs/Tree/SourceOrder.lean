import SuiteLint.Proofs.Tree.Nesting
import SuiteLint.Proofs.Tree.SettingsFilter

/-!
# Where the findings of the classifier lie

The classifier gathers its findings from the elements of arrays, the values of objects, what is
spread and what is wrapped, some of them children of an expression and some of them held by a child
under a field.  Whatever it goes on to from an expression is laid out below it
(`LaidOut.of_shape_made`), and so are the findings.  `suspectParts_inPlace`: in a well-nested tree
they lie inside the expression and one after the other, near enough, and none of them is of a kind
that is passed over or taken apart.
-/

namespace SuiteLint.Tree

/-! ### What the classifier goes on to -/

namespace LaidOut

theorem wrapped? (expr : Node) : LaidOut expr (wrapped? expr).toList := by
  cases h : Tree.wrapped? expr with
  | none => exact nil expr
  | some inner =>
    rcases Option.or_eq_some_iff.mp h with hfield | ⟨_, hfind⟩
    · exact child (Node.mem_children_of_field? hfield)
    · exact child (Node.mem_children_of_mem_namedChildren (List.mem_of_find?_eq_some hfind))

theorem propertyParts (property : Node) : LaidOut property (propertyParts property) := by
  unfold Tree.propertyParts
  split
  · exact field? property "value"
  · exact self property
  · exact nil property

/-- **The parts** of an expression are laid out below it. -/
theorem of_shape_made {expr : Node} {parts : List Node} (h : shape expr = .made parts) :
    LaidOut expr parts := by
  unfold shape at h
  dsimp only at h
  split_ifs at h
  · -- a wrapper
    obtain rfl := Shape.made.inj h
    exact wrapped? expr
  · -- an array, an object, a spread; the other kinds have no parts
    split at h
    · obtain rfl := Shape.made.inj h
      exact namedChildren expr
    · obtain rfl := Shape.made.inj h
      exact (namedChildren expr).flatMap fun property _ => propertyParts property
    · obtain rfl := Shape.made.inj h
      refine (namedChildren expr).sublist ?_
      cases expr.namedChildren with
      | nil => exact .slnil
      | cons first rest => exact List.singleton_sublist.mpr List.mem_cons_self
    all_goals simp at h

/-- **Suspect parts** are laid out below their expression, on every tree. -/
theorem suspects (settings : ClassifierSettings) (room : Nat) (expr : Node) :
    LaidOut expr (suspects settings room expr) := by
  induction room generalizing expr with
  | zero => exact nil expr
  | succ room ih =>
    rw [Tree.suspects]
    cases hshape : shape expr with
    | harmless => exact nil expr
    | made parts => exact (of_shape_made hshape).flatMap fun part _ => ih part
    | single =>
      dsimp only
      split_ifs
      · exact nil expr
      · exact self expr

end LaidOut

/-! ### Which kinds are found -/

theorem isExempt_of_judgedAt {level : Nat} {expr part : Node} (h : JudgedAt level expr part) :
    part.kind.isExempt = false := by
  rw [Bool.eq_false_iff]
  intro hexempt
  have hsingle := shape_of_judgedAt h
  rw [shape_of_isExempt hexempt] at hsingle
  contradiction

/-! ### The findings in place -/

/-- **Parts in place**: what is found in an expression lies where it should. -/
structure InPlace (expr : Node) (parts : List Node) : Prop where
  /-- The parts are the expression or below it, each on a route of its own that comes before the
  next one and does not lead on to it: no part is listed twice, and none is above another. -/
  routes : ∃ routes : List (List Nat), routes.map expr.descendant? = parts.map some ∧
    routes.Pairwise fun route route' => route < route' ∧ ¬ route <+: route'
  /-- They lie inside the bytes of the expression. -/
  inside : ∀ part ∈ parts, expr.start ≤ part.start ∧ part.stop ≤ expr.stop
  /-- Each of them ends no later than the next ones start. -/
  apart : parts.Pairwise fun a b => a.stop ≤ b.start
  /-- They are come to in at most 256 steps. -/
  near : ∀ part ∈ parts, ∃ level ≤ 256, JudgedAt level expr part
  /-- None is a literal, a function, a template string, a member access or an identifier, and none
  is an array, an object, a spread, a type wrapper or in parentheses. -/
  kinds : ∀ part ∈ parts, part.kind.isExempt = false ∧ part.kind.isComposite = false

/-- **The findings in an expression are in place**, for all settings and in any well-nested tree. -/
theorem suspectParts_inPlace {expr : Node} (h : expr.WellNested) (settings : ClassifierSettings) :
    InPlace expr (suspectParts settings (some expr)) := by
  have hlaid : LaidOut expr (suspectParts settings (some expr)) :=
    LaidOut.suspects settings _ expr
  have hnear : ∀ part ∈ suspectParts settings (some expr),
      ∃ level ≤ 256, JudgedAt level expr part := by
    intro part hpart
    obtain ⟨level, hlevel, hjudged, -⟩ := (mem_suspects_iff ..).mp hpart
    exact ⟨level, Nat.le_of_lt_succ hlevel, hjudged⟩
  refine ⟨?_, fun part hpart => hlaid.inside h hpart, hlaid.apart h, hnear, fun part hpart => ?_⟩
  · obtain ⟨routes, hroutes, hparts⟩ := hlaid
    exact ⟨routes, hparts, hroutes.imp fun h => ⟨h.lt, h.not_isPrefix⟩⟩
  · obtain ⟨level, -, hjudged⟩ := hnear part hpart
    exact ⟨isExempt_of_judgedAt hjudged, isComposite_of_mem_suspectParts hpart⟩

/-- The array `[load(), {a: load()}, ...(load())]`. -/
def mixedArray : Node :=
  let construct (label : String) (start : Nat) (text : String) (children : List Node) : Node :=
    { label := label, start := start, stop := start + text.utf8ByteSize, named := true
      field := none, text := text, children := children }
  construct "array" 0 "[load(), \x7ba: load()\x7d, ...(load())]"
    [bareToken 0 "[", bracketedCall 0 1, bareToken 7 ",",
     construct "object" 9 "\x7ba: load()\x7d"
      [bareToken 9 "\x7b",
       construct "pair" 10 "a: load()"
        [construct "property_identifier" 10 "a" [], bareToken 11 ":",
         { bracketedCall 0 13 with field := some "value" }],
       bareToken 19 "\x7d"],
     bareToken 20 ",",
     construct "spread_element" 22 "...(load())"
      [{ bareToken 22 "..." with stop := 25 },
       construct "parenthesized_expression" 25 "(load())"
        [bareToken 25 "(", bracketedCall 0 26, bareToken 32 ")"]],
     bareToken 33 "]"]

/-- The three calls of the array are found, one after the other. -/
theorem suspectParts_inPlace_mixedArray :
    mixedArray.WellNested ∧ InPlace mixedArray (suspectParts {} (some mixedArray)) ∧
      (suspectParts {} (some mixedArray)).map (fun part => (part.start, part.stop))
        = [(1, 7), (13, 19), (26, 32)] := by
  have hnested : mixedArray.WellNested := by decide +kernel
  exact ⟨hnested, suspectParts_inPlace hnested {}, by decide +kernel⟩

end SuiteLint.Tree
