import Mathlib.Data.List.Basic
import SuiteLint.Glob.Pattern

/-!
# What globs match

Tokens are matched from left to right, each against a part of the text.  A character takes itself
(`matchTokens_char_iff`).  A `**` takes nothing, or all, or everything up to some separator: what it
leaves is described by `LeftBelow`, which is reflexive and transitive, so that two of them in a row
match as one does (`matchTokens_merge`).
-/

namespace SuiteLint.Glob

variable {tokens : List Token} {text rest : List Char}

/-! ### Recursive wildcards -/

/-- `LeftBelow text rest`: a `**` in front of `text` can leave `rest` to match. -/
inductive LeftBelow : (text rest : List Char) → Prop where
  /-- It takes nothing. -/
  | refl {text : List Char} : LeftBelow text text
  /-- It takes what stands up to a separator. -/
  | after {before rest : List Char} : LeftBelow (before ++ '/' :: rest) rest
  /-- It takes everything. -/
  | all {text : List Char} : LeftBelow text []

theorem LeftBelow.isSuffix (h : LeftBelow text rest) : rest <:+ text := by
  cases h with
  | refl => exact List.suffix_rfl
  | @after before => exact ⟨before ++ ['/'], by simp⟩
  | all => exact List.nil_suffix

theorem LeftBelow.trans {rest' : List Char} (h : LeftBelow text rest) (h' : LeftBelow rest rest') :
    LeftBelow text rest' := by
  cases h with
  | refl => exact h'
  | @after before =>
    cases h' with
    | refl => exact .after
    | @after between =>
      have hassoc : before ++ '/' :: (between ++ '/' :: rest')
          = (before ++ '/' :: between) ++ '/' :: rest' := by simp
      rw [hassoc]
      exact .after
    | all => exact .all
  | all =>
    rw [List.suffix_nil.mp h'.isSuffix]
    exact .all

theorem someBelow_iff {p : List Char → Bool} :
    someBelow p text = true ↔
      p [] = true ∨ ∃ before rest, text = before ++ '/' :: rest ∧ p rest = true := by
  induction text with
  | nil => simp [someBelow]
  | cons c text ih =>
    rw [someBelow, Bool.or_eq_true, Bool.and_eq_true, beq_iff_eq, ih]
    constructor
    · rintro (⟨rfl, hp⟩ | hnil | ⟨before, rest, rfl, hp⟩)
      · exact Or.inr ⟨[], text, rfl, hp⟩
      · exact Or.inl hnil
      · exact Or.inr ⟨c :: before, rest, rfl, hp⟩
    · rintro (hnil | ⟨before, rest, heq, hp⟩)
      · exact Or.inr (Or.inl hnil)
      · cases before with
        | nil =>
          obtain ⟨rfl, rfl⟩ := List.cons.inj heq
          exact Or.inl ⟨rfl, hp⟩
        | cons d before =>
          obtain ⟨rfl, rfl⟩ := List.cons.inj heq
          exact Or.inr (Or.inr ⟨before, rest, rfl, hp⟩)

/-- **A `**`** matches if the tokens after it match something that it leaves. -/
theorem matchTokens_anyComponents_iff :
    matchTokens (.anyComponents :: tokens) text = true ↔
      ∃ rest, LeftBelow text rest ∧ matchTokens tokens rest = true := by
  rw [matchTokens, Bool.or_eq_true, someBelow_iff]
  constructor
  · rintro (h | h | ⟨before, rest, rfl, h⟩)
    · exact ⟨text, .refl, h⟩
    · exact ⟨[], .all, h⟩
    · exact ⟨rest, .after, h⟩
  · rintro ⟨rest, hleft, h⟩
    cases hleft with
    | refl => exact Or.inl h
    | @after before => exact Or.inr (Or.inr ⟨before, rest, rfl, h⟩)
    | all => exact Or.inr (Or.inl h)

/-- Two of them in a row are as good as one. -/
theorem matchTokens_merge (tokens : List Token) :
    matchTokens (.anyComponents :: .anyComponents :: tokens)
      = matchTokens (.anyComponents :: tokens) := by
  funext text
  rw [Bool.eq_iff_iff, matchTokens_anyComponents_iff, matchTokens_anyComponents_iff]
  constructor
  · rintro ⟨rest, hleft, h⟩
    obtain ⟨rest', hleft', h'⟩ := matchTokens_anyComponents_iff.mp h
    exact ⟨rest', hleft.trans hleft', h'⟩
  · rintro ⟨rest, hleft, h⟩
    exact ⟨rest, hleft, matchTokens_anyComponents_iff.mpr ⟨rest, .refl, h⟩⟩

/-- At the end of a pattern it matches everything. -/
theorem matchTokens_anyComponents_nil (text : List Char) :
    matchTokens [.anyComponents] text = true :=
  matchTokens_anyComponents_iff.mpr ⟨[], .all, rfl⟩

/-! ### Characters -/

theorem matchTokens_char_iff {c : Char} :
    matchTokens (.char c :: tokens) text = true ↔
      ∃ rest, text = c :: rest ∧ matchTokens tokens rest = true := by
  cases text with
  | nil => simp [matchTokens]
  | cons d text =>
    simp only [matchTokens, Bool.and_eq_true, beq_iff_eq, List.cons.injEq]
    constructor
    · rintro ⟨rfl, h⟩
      exact ⟨text, ⟨rfl, rfl⟩, h⟩
    · rintro ⟨_, ⟨rfl, rfl⟩, h⟩
      exact ⟨rfl, h⟩

/-- **A literal text** matches itself. -/
theorem matchTokens_chars_iff {cs : List Char} :
    matchTokens (cs.map .char ++ tokens) text = true ↔
      ∃ rest, text = cs ++ rest ∧ matchTokens tokens rest = true := by
  induction cs generalizing text with
  | nil => simp
  | cons c cs ih =>
    rw [List.map_cons, List.cons_append, matchTokens_char_iff]
    simp only [ih]
    constructor
    · rintro ⟨_, rfl, rest, rfl, h⟩
      exact ⟨rest, rfl, h⟩
    · rintro ⟨rest, rfl, h⟩
      exact ⟨cs ++ rest, rfl, rest, rfl, h⟩

/-! ### Any tokens -/

/-- Tokens may be exchanged behind others for tokens that match the same. -/
theorem matchTokens_append_congr {back back' : List Token}
    (h : matchTokens back = matchTokens back') (front : List Token) :
    matchTokens (front ++ back) = matchTokens (front ++ back') := by
  induction front with
  | nil => exact h
  | cons token front ih =>
    funext text
    rw [List.cons_append, List.cons_append]
    cases token <;> simp only [matchTokens, ih]

end SuiteLint.Glob
